import RecordStore.Proofs.ZoneNames

/-!
How servers read the statement of a zone. A literal stands between single quotes, of which two stand for
one of its characters. In MySQL a backslash begins an escape; in PostgreSQL it stands for itself, as
strings conform to the standard there.
-/

namespace RecordStore

namespace ServerReading

inductive Piece where
  | word (letters : List Char)
  | sign (letter : Char)
  /-- What a literal stands for, and how it is written. -/
  | literal (content written : List Char)
  deriving DecidableEq, Repr

def Piece.written : Piece → List Char
  | word letters => letters
  | sign letter => [letter]
  | literal _ written => written

inductive Mode where
  | outside
  | word (letters : List Char)
  | inside (content written : List Char)
  /-- Behind a backslash that begins an escape. -/
  | escaped (content written : List Char)
  /-- Behind a quote, which ends the literal unless a second one follows. -/
  | quoted (content written : List Char)
  deriving DecidableEq, Repr

namespace Mode

def written : Mode → List Char
  | outside => []
  | word letters => letters
  | inside _ written => written
  | escaped _ written => written
  | quoted _ written => written

def last? : Mode → Option (List Piece)
  | outside => some []
  | word letters => some [.word letters]
  | inside _ _ => none
  | escaped _ _ => none
  | quoted content written => some [.literal content written]

end Mode

def isWordLetter (letter : Char) : Bool :=
  letter.isAlphanum || letter = '_' || letter = '$' || 128 ≤ letter.toNat

/-- Signs that are pieces of their own. Others begin comments, names between quotes or operators, which
are not read here. -/
def signs : List Char := [' ', '\n', '=', ';', ',', '(', ')']

/-- What the letter of an escape stands for. The escapes of wildcards keep their backslash. -/
def escapedLetters : Char → List Char
  | '0' => [Char.ofNat 0]
  | 'b' => [Char.ofNat 8]
  | 'n' => ['\n']
  | 'r' => ['\r']
  | 't' => ['\t']
  | 'Z' => [Char.ofNat 26]
  | '%' => ['\\', '%']
  | '_' => ['\\', '_']
  | letter => [letter]

def start (letter : Char) : Option (List Piece × Mode) :=
  if letter = '\'' then some ([], .inside [] [letter])
  else if isWordLetter letter then some ([], .word [letter])
  else if letter ∈ signs then some ([.sign letter], .outside)
  else none

def startAfter (mode : Mode) (letter : Char) : Option (List Piece × Mode) := do
  let last ← mode.last?
  let (pieces, next) ← start letter
  pure (last ++ pieces, next)

/-- Reads a letter. A literal directly behind a word is of another kind, and not read here. -/
def step (adapter : Adapter) (mode : Mode) (letter : Char) : Option (List Piece × Mode) :=
  match mode with
  | .outside => startAfter mode letter
  | .word letters =>
    if isWordLetter letter then some ([], .word (letters ++ [letter]))
    else if letter = '\'' then none
    else startAfter mode letter
  | .inside content written =>
    if letter = '\'' then some ([], .quoted content (written ++ [letter]))
    else if adapter = .mysql ∧ letter = '\\' then some ([], .escaped content (written ++ [letter]))
    else some ([], .inside (content ++ [letter]) (written ++ [letter]))
  | .escaped content written =>
    some ([], .inside (content ++ escapedLetters letter) (written ++ [letter]))
  | .quoted content written =>
    if letter = '\'' then some ([], .inside (content ++ [letter]) (written ++ [letter]))
    else startAfter mode letter

def run (adapter : Adapter) : Mode → List Char → Option (List Piece × Mode)
  | mode, [] => some ([], mode)
  | mode, letter :: rest => do
    let (pieces, next) ← step adapter mode letter
    let (later, last) ← run adapter next rest
    pure (pieces ++ later, last)

def pieces? (adapter : Adapter) (statement : String) : Option (List Piece) := do
  let (pieces, mode) ← run adapter .outside statement.toList
  let last ← mode.last?
  pure (pieces ++ last)

section Run

variable {adapter : Adapter} {mode next : Mode} {letter : Char} {pieces : List Piece}

theorem run_cons_eq_some_iff {rest : List Char} : run adapter mode (letter :: rest) = some (pieces, next) ↔
    ∃ early middle later, step adapter mode letter = some (early, middle) ∧
      run adapter middle rest = some (later, next) ∧ early ++ later = pieces := by
  rw [run]
  simp [Option.bind_eq_some_iff]

theorem start_written (started : start letter = some (pieces, next)) :
    pieces.flatMap Piece.written ++ next.written = [letter] := by
  rw [start] at started
  split at started
  · cases started
    rfl
  · split at started
    · cases started
      rfl
    · split at started
      · cases started
        rfl
      · cases started

theorem last?_written (ended : mode.last? = some pieces) :
    pieces.flatMap Piece.written = mode.written := by
  cases mode with
  | inside | escaped => cases ended
  | outside =>
      cases ended
      rfl
  | word | quoted =>
      cases ended
      exact List.flatMap_singleton ..

theorem startAfter_written (started : startAfter mode letter = some (pieces, next)) :
    pieces.flatMap Piece.written ++ next.written = mode.written ++ [letter] := by
  obtain ⟨last, ended, rest⟩ := Option.bind_eq_some_iff.mp started
  obtain ⟨⟨begun, _⟩, starts, made⟩ := Option.bind_eq_some_iff.mp rest
  cases made
  rw [List.flatMap_append, List.append_assoc, start_written starts, last?_written ended]

theorem step_written (stepped : step adapter mode letter = some (pieces, next)) :
    pieces.flatMap Piece.written ++ next.written = mode.written ++ [letter] := by
  cases mode with
  | outside => exact startAfter_written stepped
  | word letters =>
      simp only [step] at stepped
      split at stepped
      · cases stepped
        rfl
      · split at stepped
        · cases stepped
        · exact startAfter_written stepped
  | inside content written =>
      simp only [step] at stepped
      split at stepped
      · cases stepped
        rfl
      · split at stepped <;> cases stepped <;> rfl
  | escaped content written =>
      cases stepped
      rfl
  | quoted content written =>
      simp only [step] at stepped
      split at stepped
      · cases stepped
        rfl
      · exact startAfter_written stepped

theorem run_written {letters : List Char} (ran : run adapter mode letters = some (pieces, next)) :
    pieces.flatMap Piece.written ++ next.written = mode.written ++ letters := by
  induction letters generalizing mode pieces with
  | nil =>
      cases ran
      exact (List.append_nil _).symm
  | cons letter rest ih =>
      obtain ⟨early, middle, later, stepped, continued, rfl⟩ := run_cons_eq_some_iff.mp ran
      rw [List.flatMap_append, List.append_assoc, ih continued, ← List.append_assoc, step_written stepped,
        List.append_assoc, List.singleton_append]

theorem pieces?_written {statement : String} (read : pieces? adapter statement = some pieces) :
    pieces.flatMap Piece.written = statement.toList := by
  obtain ⟨⟨early, mode⟩, ran, rest⟩ := Option.bind_eq_some_iff.mp read
  obtain ⟨last, ended, made⟩ := Option.bind_eq_some_iff.mp rest
  cases made
  rw [List.flatMap_append, last?_written ended, run_written ran]
  rfl

theorem run_append {left right : List Char} {middle : Mode} {later : List Piece}
    (first : run adapter mode left = some (pieces, middle))
    (second : run adapter middle right = some (later, next)) :
    run adapter mode (left ++ right) = some (pieces ++ later, next) := by
  induction left generalizing mode pieces with
  | nil =>
      cases first
      exact second
  | cons letter left ih =>
      obtain ⟨early, other, others, stepped, ran, rfl⟩ := run_cons_eq_some_iff.mp first
      exact run_cons_eq_some_iff.mpr
        ⟨early, other, others ++ later, stepped, ih ran, (List.append_assoc ..).symm⟩

theorem pieces?_of_run {statement : String} {last : List Piece}
    (ran : run adapter .outside statement.toList = some (pieces, mode))
    (ended : mode.last? = some last) : pieces? adapter statement = some (pieces ++ last) := by
  simp [pieces?, ran, ended]

end Run

def IsHarmless (letter : Char) : Prop := letter ≠ '\'' ∧ letter ≠ '\\'

theorem run_harmless {letters : List Char} (harmless : ∀ letter ∈ letters, IsHarmless letter)
    (adapter : Adapter) (content written : List Char) :
    run adapter (.inside content written) letters =
      some ([], .inside (content ++ letters) (written ++ letters)) := by
  induction letters generalizing content written with
  | nil => simp [run]
  | cons letter rest ih =>
      obtain ⟨⟨noQuote, noBackslash⟩, others⟩ := List.forall_mem_cons.mp harmless
      have stepped : step adapter (.inside content written) letter =
          some ([], .inside (content ++ [letter]) (written ++ [letter])) := by
        simp only [step, noQuote, noBackslash, and_false, if_false]
      have continued := ih others (content ++ [letter]) (written ++ [letter])
      rw [List.append_assoc, List.append_assoc] at continued
      exact run_cons_eq_some_iff.mpr ⟨[], _, [], stepped, continued, rfl⟩

theorem pieces?_literal {adapter : Adapter} {opening content : String} {before : List Piece}
    (begun : run adapter .outside opening.toList = some (before, .inside [] ['\'']))
    (harmless : ∀ letter ∈ content.toList, IsHarmless letter) :
    pieces? adapter (opening ++ content ++ "'") =
      some (before ++ [.literal content.toList ("'" ++ content ++ "'").toList]) := by
  set letters := content.toList
  have written : ("'" ++ content ++ "'").toList = '\'' :: letters ++ ['\''] := by
    rw [String.toList_append, String.toList_append]
    rfl
  have whole : (opening ++ content ++ "'").toList = opening.toList ++ (letters ++ ['\'']) := by
    rw [String.toList_append, String.toList_append, List.append_assoc]
    rfl
  have ended : run adapter (.inside letters ('\'' :: letters)) ['\''] =
      some ([], .quoted letters ('\'' :: letters ++ ['\''])) := rfl
  have ran := run_append begun (run_append (run_harmless harmless adapter [] ['\'']) ended)
  rw [← whole, List.append_nil, List.append_nil] at ran
  rw [written]
  exact pieces?_of_run ran rfl

/-- A backslash is harmless in PostgreSQL only. In MySQL the quote behind it does not end the literal. -/
example : pieces? .mysql "'a\\';'" = some [.literal ['a', '\'', ';'] "'a\\';'".toList] ∧
    pieces? .postgres "'a\\';" = some [.literal ['a', '\\'] "'a\\'".toList, .sign ';'] := by
  decide

def openingPieces : Adapter → List Piece
  | .postgres => [.word "SET".toList, .sign ' ', .word "TIME".toList, .sign ' ', .word "ZONE".toList,
      .sign ' ']
  | .mysql => [.word "SET".toList, .sign ' ', .word "time_zone".toList, .sign ' ', .sign '=', .sign ' ']
  | .sqlite => []

theorem run_opening {adapter : Adapter} {opening : String}
    (begun : TimeZone.opening? adapter = some opening) :
    run adapter .outside opening.toList = some (openingPieces adapter, .inside [] ['\'']) := by
  cases adapter with
  | sqlite => cases begun
  | postgres | mysql =>
      cases begun
      decide

end ServerReading

theorem TimeZone.IsPlainLine.isHarmless {zone : String} (line : IsPlainLine zone) {letter : Char}
    (found : letter ∈ zone.toList) : ServerReading.IsHarmless letter := by
  have listed : letter ∈ '\n' :: nameLetters := by
    rcases line with plain | ⟨name, _, plain, rfl⟩
    · exact List.mem_cons_of_mem _ (plain letter found)
    · rw [String.toList_append] at found
      rcases List.mem_append.mp found with named | ending
      · exact List.mem_cons_of_mem _ (plain letter named)
      · exact List.mem_cons.mpr (.inl (List.mem_singleton.mp ending))
  have all : ('\n' :: nameLetters).all (fun other => other != '\'' && other != '\\') = true := by
    decide
  simpa [ServerReading.IsHarmless] using List.all_eq_true.mp all letter listed

namespace Config

open ServerReading

/-- A server reads the statement of an accepted zone as its fixed opening and one literal behind it, which
is all of the rest and stands for the zone. -/
theorem zone_statement_is_read_as_one_literal {settings : List (String × Value)} {config : Config}
    (accepted : ofSettings settings = .ok config) (zoned : config.timeZone ≠ "")
    (served : config.adapter ≠ .sqlite) :
    ∃ statement, config.timeZoneStatement? = some statement ∧
      pieces? config.adapter statement = some (openingPieces config.adapter ++
        [.literal config.timeZone.toList ("'" ++ config.timeZone ++ "'").toList]) ∧
      (openingPieces config.adapter).flatMap Piece.written ++
        ("'" ++ config.timeZone ++ "'").toList = statement.toList := by
  obtain ⟨opening, begun⟩ : ∃ opening, TimeZone.opening? config.adapter = some opening := by
    cases adapter : config.adapter with
    | sqlite => exact absurd adapter served
    | postgres | mysql => exact ⟨_, rfl⟩
  have stated : config.timeZoneStatement? = some (opening ++ config.timeZone ++ "'") := by
    rw [timeZoneStatement?, TimeZone.statement?_of_ne zoned, begun]
    rfl
  have harmless : ∀ letter ∈ config.timeZone.toList, IsHarmless letter :=
    fun _ => (isPlainLine_of_accepted accepted).isHarmless
  have read := pieces?_literal (run_opening begun) harmless
  refine ⟨_, stated, read, ?_⟩
  rw [← pieces?_written read, List.flatMap_append, List.flatMap_singleton]
  rfl

/-- A line end is a character of the literal. -/
theorem zone_with_a_line_end_is_one_literal : ∃ config,
    ofSettings [("adapter", .text "mysql_adapter"), ("timezone", .text "Etc/GMT-7\n")] = .ok config ∧
    config.timeZone ≠ "" ∧ config.adapter ≠ .sqlite ∧
    ∃ statement, config.timeZoneStatement? = some statement ∧
      pieces? config.adapter statement = some (openingPieces config.adapter ++
        [.literal config.timeZone.toList ("'" ++ config.timeZone ++ "'").toList]) ∧
      (openingPieces config.adapter).flatMap Piece.written ++
        ("'" ++ config.timeZone ++ "'").toList = statement.toList := by
  obtain ⟨config, accepted, zoned, served⟩ : ∃ config,
      ofSettings [("adapter", .text "mysql_adapter"), ("timezone", .text "Etc/GMT-7\n")] =
        .ok config ∧ config.timeZone ≠ "" ∧ config.adapter ≠ .sqlite :=
    ⟨_, rfl, by decide, by decide⟩
  exact ⟨config, accepted, zoned, served, zone_statement_is_read_as_one_literal accepted zoned served⟩

end Config
end RecordStore
