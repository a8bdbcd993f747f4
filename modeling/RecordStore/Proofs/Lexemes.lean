import RecordStore.Proofs.PlainCase
import RecordStore.Sql.Render

/-!
Reading the text of a statement: its lexemes. Names may stand between quotes, which are read away, so
that the same name is read however it is written; words outside of quotes are read in small letters. A
place is read as the value that is bound there.
-/

namespace RecordStore

/-- The keywords that search conditions are made of, and those that stand before or behind one:
`where`, `order` and `limit`. -/
inductive Keyword where
  | restrict
  | sort
  | cut
  | both
  | either
  | is
  | not
  | null
  | like
  | between
  | true
  | false
  deriving DecidableEq, Repr

namespace Keyword

def all : List Keyword :=
  [restrict, sort, cut, both, either, is, not, null, like, between, true, false]

def spelling : Keyword → String
  | restrict => "where"
  | sort => "order"
  | cut => "limit"
  | both => "and"
  | either => "or"
  | is => "is"
  | not => "not"
  | null => "null"
  | like => "like"
  | between => "between"
  | true => "true"
  | false => "false"

def ofSpelling? (word : String) : Option Keyword :=
  all.find? fun keyword => keyword.spelling == word

end Keyword

inductive Lexeme where
  | keyword (keyword : Keyword)
  | name (text : String)
  | number (text : String)
  | literal (text : String)
  | symbol (letter : Char)
  | place (value : Value)

def Lexeme.ofWord (letters : List Char) : Lexeme :=
  let word := String.ofList (letters.map Text.lowerAscii)
  match Keyword.ofSpelling? word with
  | some found => .keyword found
  | none => if (letters.head?.any Char.isDigit) then .number word else .name word

namespace Dialect

def markSign : Dialect → Char
  | .generic => ':'
  | .adapter .sqlite => '?'
  | .adapter .mysql => '%'
  | .adapter .postgres => '$'

def markLetters (dialect : Dialect) (position : Nat) (name : String) : List Char :=
  match dialect with
  | .generic => name.toList
  | .adapter .sqlite => []
  | .adapter .mysql => ['s']
  | .adapter .postgres => (toString position).toList

def isDoubled (dialect : Dialect) (quote letter : Char) : Bool :=
  letter = quote ||
    (dialect = .adapter .mysql && quote = '\'' && (letter = '\\' || letter = '%'))

end Dialect

inductive Scanner.Mode where
  /-- A mark, of which these letters have to follow. Without any, no lexeme was begun. -/
  | mark (letters : List Char)
  | word (letters : List Char)
  | quoted (quote : Char) (letters : List Char)
  /-- Between quotes, one of two letters that stand for one, or the quote at the end. -/
  | doubled (quote letter : Char) (letters : List Char)

/-- How far a text was read: the lexeme that was begun, the number of the next place and the parameters
of all places that are left. -/
structure Scanner where
  mode : Scanner.Mode
  position : Nat
  parameters : List (String × Value)

namespace Scanner

def isWordLetter (letter : Char) : Bool := letter.isAlphanum || letter = '_' || letter = '$'

def quotedLexeme (quote : Char) (letters : List Char) : Lexeme :=
  if quote = '\'' then .literal (String.ofList letters) else .name (String.ofList letters)

def Mode.last? : Mode → Option (List Lexeme)
  | .mark [] => some []
  | .word letters => some [Lexeme.ofWord letters]
  | .doubled quote letter letters => if letter = quote then some [quotedLexeme quote letters] else none
  | _ => none

def start (dialect : Dialect) (position : Nat) (parameters : List (String × Value)) (letter : Char) :
    Option (List Lexeme × Scanner) :=
  if letter = ' ' || letter = '\n' then some ([], ⟨.mark [], position, parameters⟩)
  else if letter = dialect.markSign then
    match parameters with
    | [] => none
    | (name, value) :: rest =>
      some ([.place value], ⟨.mark (dialect.markLetters position name), position + 1, rest⟩)
  else if letter = '\'' || letter = dialect.nameQuote then
    some ([], ⟨.quoted letter [], position, parameters⟩)
  else if isWordLetter letter then some ([], ⟨.word [letter], position, parameters⟩)
  else some ([.symbol letter], ⟨.mark [], position, parameters⟩)

def startAfter (dialect : Dialect) (scanner : Scanner) (letter : Char) :
    Option (List Lexeme × Scanner) := do
  let last ← scanner.mode.last?
  let (lexemes, next) ← start dialect scanner.position scanner.parameters letter
  pure (last ++ lexemes, next)

def step (dialect : Dialect) (scanner : Scanner) (letter : Char) : Option (List Lexeme × Scanner) :=
  match scanner.mode with
  | .mark (first :: rest) => if letter = first then some ([], { scanner with mode := .mark rest }) else none
  | .word letters =>
    if isWordLetter letter then some ([], { scanner with mode := .word (letters ++ [letter]) })
    else startAfter dialect scanner letter
  | .quoted quote letters =>
    if dialect.isDoubled quote letter then
      some ([], { scanner with mode := .doubled quote letter letters })
    else some ([], { scanner with mode := .quoted quote (letters ++ [letter]) })
  | .doubled quote held letters =>
    if letter = held then some ([], { scanner with mode := .quoted quote (letters ++ [letter]) })
    else startAfter dialect scanner letter
  | .mark [] => startAfter dialect scanner letter

def scan (dialect : Dialect) : Scanner → List Char → Option (List Lexeme × Scanner)
  | scanner, [] => some ([], scanner)
  | scanner, letter :: rest => do
    let (lexemes, next) ← step dialect scanner letter
    let (later, last) ← scan dialect next rest
    pure (lexemes ++ later, last)

end Scanner

def SqlText.lexemes? (dialect : Dialect) (sql : SqlText) : Option (List Lexeme) := do
  let (lexemes, scanner) ← Scanner.scan dialect ⟨.mark [], 1, sql.parameters⟩ sql.text.toList
  let last ← scanner.mode.last?
  pure (lexemes ++ last)

namespace Scanner

variable {dialect : Dialect} {position : Nat} {text : List Char} {places : List (String × Value)}
  {lexemes : List Lexeme} {mode : Mode}

theorem scan_append {scanner middle last : Scanner} {left right : List Char}
    {early later : List Lexeme} (first : scan dialect scanner left = some (early, middle))
    (second : scan dialect middle right = some (later, last)) :
    scan dialect scanner (left ++ right) = some (early ++ later, last) := by
  induction left generalizing scanner early with
  | nil =>
      obtain ⟨rfl, rfl⟩ := Prod.mk.inj (Option.some.inj first)
      exact second
  | cons letter left ih =>
      obtain ⟨⟨lexemes, next⟩, stepped, rest⟩ := Option.bind_eq_some_iff.mp first
      obtain ⟨⟨others, scanner'⟩, scanned, made⟩ := Option.bind_eq_some_iff.mp rest
      obtain ⟨rfl, rfl⟩ := Prod.mk.inj (Option.some.inj made)
      rw [List.cons_append, scan, stepped]
      show (scan dialect next (left ++ right) >>= _) = _
      rw [ih scanned]
      simp

inductive Rests (dialect : Dialect) : Mode → List Lexeme → Prop
  | between : Rests dialect (.mark []) []
  | word (letters : List Char) : Rests dialect (.word letters) [.ofWord letters]
  | quoted {quote : Char} (letters : List Char)
      (isQuote : quote = '\'' ∨ quote = dialect.nameQuote) :
      Rests dialect (.doubled quote quote letters) [quotedLexeme quote letters]

theorem Rests.last?_eq {last : List Lexeme} (rests : Rests dialect mode last) :
    mode.last? = some last := by
  cases rests with
  | between => rfl
  | word letters => rfl
  | quoted letters isQuote => exact if_pos rfl

def isApart (dialect : Dialect) (letter : Char) : Bool :=
  !isWordLetter letter && letter != '\'' && letter != dialect.nameQuote

theorem Rests.step_apart {last : List Lexeme} (rests : Rests dialect mode last) {letter : Char}
    (apart : isApart dialect letter = true) (parameters : List (String × Value)) :
    step dialect ⟨mode, position, parameters⟩ letter =
      startAfter dialect ⟨mode, position, parameters⟩ letter := by
  simp only [isApart, Bool.and_eq_true, bne_iff_ne, Bool.not_eq_true'] at apart
  cases rests with
  | between => rfl
  | word letters => simp only [step, apart.1.1, Bool.false_eq_true, if_false]
  | quoted letters isQuote =>
      rcases isQuote with rfl | rfl
      · simp only [step, apart.1.2, if_false]
      · simp only [step, apart.2, if_false]

theorem Rests.scan_apart {last : List Lexeme} (rests : Rests dialect mode last) {letter : Char}
    (apart : isApart dialect letter = true) {parameters : List (String × Value)} {rest : List Char}
    {after : Scanner}
    (read : scan dialect ⟨.mark [], position, parameters⟩ (letter :: rest) = some (lexemes, after)) :
    scan dialect ⟨mode, position, parameters⟩ (letter :: rest) = some (last ++ lexemes, after) := by
  obtain ⟨⟨early, next⟩, stepped, read⟩ := Option.bind_eq_some_iff.mp read
  obtain ⟨⟨later, scanner⟩, scanned, made⟩ := Option.bind_eq_some_iff.mp read
  obtain ⟨rfl, rfl⟩ := Prod.mk.inj (Option.some.inj made)
  obtain ⟨⟨started, following⟩, starts, made⟩ := Option.bind_eq_some_iff.mp stepped
  obtain ⟨rfl, rfl⟩ := Prod.mk.inj (Option.some.inj made)
  rw [scan, rests.step_apart apart, startAfter, rests.last?_eq]
  show ((start dialect position parameters letter >>= _) >>= _) = _
  rw [starts]
  show (scan dialect following rest >>= _) = _
  rw [scanned]
  simp

/-- A text in which nothing was begun is read as lexemes, and as places with their parameters. It ends
in a mode in which a text may. -/
def Scans (dialect : Dialect) (position : Nat) (text : List Char) (places : List (String × Value))
    (lexemes : List Lexeme) (mode : Mode) : Prop :=
  ∃ early last, Rests dialect mode last ∧ early ++ last = lexemes ∧
    ∀ later, scan dialect ⟨.mark [], position, places ++ later⟩ text =
      some (early, ⟨mode, position + places.length, later⟩)

theorem scans_of_scan (read : ∀ later, scan dialect ⟨.mark [], position, places ++ later⟩ text =
    some (lexemes, ⟨.mark [], position + places.length, later⟩)) :
    Scans dialect position text places lexemes (.mark []) :=
  ⟨lexemes, [], .between, List.append_nil _, read⟩

theorem Scans.append {more : List Char} {others : List (String × Value)} {further : List Lexeme}
    (first : Scans dialect position text places lexemes (.mark []))
    (second : Scans dialect (position + places.length) more others further mode) :
    Scans dialect position (text ++ more) (places ++ others) (lexemes ++ further) mode := by
  obtain ⟨early, _, ⟨⟩, rfl, reads⟩ := first
  obtain ⟨later, last, rests, rfl, readsMore⟩ := second
  refine ⟨early ++ later, last, rests, by simp, fun others => ?_⟩
  rw [List.append_assoc, List.length_append, ← Nat.add_assoc]
  exact scan_append (reads _) (readsMore others)

theorem Scans.append_apart {letter : Char} {more : List Char} {others : List (String × Value)}
    {further : List Lexeme} {next : Mode}
    (first : Scans dialect position text places lexemes mode) (apart : isApart dialect letter = true)
    (second : Scans dialect (position + places.length) (letter :: more) others further next) :
    Scans dialect position (text ++ letter :: more) (places ++ others) (lexemes ++ further) next := by
  obtain ⟨early, last, rests, rfl, reads⟩ := first
  obtain ⟨later, ending, restsMore, rfl, readsMore⟩ := second
  refine ⟨early ++ (last ++ later), ending, restsMore, by simp, fun others => ?_⟩
  rw [List.append_assoc, List.length_append, ← Nat.add_assoc]
  exact scan_append (reads _) (rests.scan_apart apart (readsMore others))

def StartsApart (dialect : Dialect) (text : String) : Prop :=
  ∃ letter letters, text.toList = letter :: letters ∧ isApart dialect letter = true

def Ends (dialect : Dialect) (text : String) (lexemes : List Lexeme) : Prop :=
  ∀ position, ∃ mode, Scans dialect position text.toList [] lexemes mode

def Closes (dialect : Dialect) (text : String) (lexemes : List Lexeme) : Prop :=
  ∀ position, Scans dialect position text.toList [] lexemes (.mark [])

section Texts

variable {before text : String} {others : List Lexeme}

theorem Closes.ends (closes : Closes dialect text lexemes) : Ends dialect text lexemes :=
  fun position => ⟨_, closes position⟩

theorem Closes.append_ends (first : Closes dialect before lexemes) (second : Ends dialect text others) :
    Ends dialect (before ++ text) (lexemes ++ others) := by
  intro position
  obtain ⟨mode, scans⟩ := second position
  rw [String.toList_append]
  exact ⟨mode, (first position).append scans⟩

theorem Ends.append (first : Ends dialect before lexemes) (starts : StartsApart dialect text)
    (second : Ends dialect text others) : Ends dialect (before ++ text) (lexemes ++ others) := by
  intro position
  obtain ⟨_, scans⟩ := first position
  obtain ⟨mode, scansMore⟩ := second position
  obtain ⟨letter, letters, spelled, apart⟩ := starts
  rw [spelled] at scansMore
  rw [String.toList_append, spelled]
  exact ⟨mode, scans.append_apart apart scansMore⟩

theorem Ends.append_closes (first : Ends dialect before lexemes) (starts : StartsApart dialect text)
    (second : Closes dialect text others) : Closes dialect (before ++ text) (lexemes ++ others) := by
  intro position
  obtain ⟨_, scans⟩ := first position
  have scansMore := second position
  obtain ⟨letter, letters, spelled, apart⟩ := starts
  rw [spelled] at scansMore
  rw [String.toList_append, spelled]
  exact scans.append_apart apart scansMore

end Texts

def doubled (dialect : Dialect) (quote : Char) (letters : List Char) : List Char :=
  letters.flatMap fun letter => if dialect.isDoubled quote letter then [letter, letter] else [letter]

theorem scan_doubled (quote : Char) (before letters : List Char)
    (parameters : List (String × Value)) :
    scan dialect ⟨.quoted quote before, position, parameters⟩ (doubled dialect quote letters) =
      some ([], ⟨.quoted quote (before ++ letters), position, parameters⟩) := by
  induction letters generalizing before with
  | nil => simp [doubled, scan]
  | cons letter letters ih =>
      have rest := ih (before ++ [letter])
      rw [List.append_assoc, List.singleton_append] at rest
      by_cases twice : dialect.isDoubled quote letter = true
      · have pair : scan dialect ⟨.quoted quote before, position, parameters⟩ [letter, letter] =
            some ([], ⟨.quoted quote (before ++ [letter]), position, parameters⟩) := by
          simp [scan, step, twice]
        rw [doubled, List.flatMap_cons, if_pos twice]
        exact scan_append pair rest
      · have single : scan dialect ⟨.quoted quote before, position, parameters⟩ [letter] =
            some ([], ⟨.quoted quote (before ++ [letter]), position, parameters⟩) := by
          simp [scan, step, twice]
        rw [doubled, List.flatMap_cons, if_neg twice]
        exact scan_append single rest

theorem start_quote {quote : Char} (isQuote : quote = '\'' ∨ quote = dialect.nameQuote)
    (parameters : List (String × Value)) :
    start dialect position parameters quote = some ([], ⟨.quoted quote [], position, parameters⟩) := by
  rcases dialect with _ | ⟨_ | _ | _⟩ <;> rcases isQuote with rfl | rfl <;> rfl

theorem scans_quoted {quote : Char} (isQuote : quote = '\'' ∨ quote = dialect.nameQuote)
    (letters : List Char) :
    Scans dialect position (quote :: doubled dialect quote letters ++ [quote]) []
      [quotedLexeme quote letters] (.doubled quote quote letters) := by
  refine ⟨[], _, .quoted letters isQuote, rfl, fun later => ?_⟩
  have opens : scan dialect ⟨.mark [], position, later⟩ [quote] =
      some ([], ⟨.quoted quote [], position, later⟩) := by
    simp [scan, step, startAfter, Mode.last?, start_quote isQuote]
  have closes : scan dialect ⟨.quoted quote letters, position, later⟩ [quote] =
      some ([], ⟨.doubled quote quote letters, position, later⟩) := by
    simp [scan, step, Dialect.isDoubled]
  have inside := scan_append opens (scan_doubled quote [] letters later)
  exact scan_append inside closes

theorem scan_word {letters : List Char} (isWord : ∀ letter ∈ letters, isWordLetter letter = true)
    (before : List Char) (parameters : List (String × Value)) :
    scan dialect ⟨.word before, position, parameters⟩ letters =
      some ([], ⟨.word (before ++ letters), position, parameters⟩) := by
  induction letters generalizing before with
  | nil => simp [scan]
  | cons letter letters ih =>
      obtain ⟨first, rest⟩ := List.forall_mem_cons.mp isWord
      simp [scan, step, first, ih rest]

theorem isWordLetter_of_isPlainLetter {letter : Char} (plain : Dialect.isPlainLetter letter = true) :
    isWordLetter letter = true := by
  simp only [Dialect.isPlainLetter, Bool.or_eq_true, Bool.and_eq_true, decide_eq_true_eq] at plain
  simp only [isWordLetter, Char.isAlphanum, Bool.or_eq_true, decide_eq_true_eq]
  rcases plain with ((⟨lower, upper⟩ | digit) | same) | same
  · have isLower : letter.isLower = true :=
      Bool.and_eq_true_iff.mpr ⟨decide_eq_true lower, decide_eq_true upper⟩
    have isAlpha : letter.isAlpha = true := Bool.or_eq_true_iff.mpr (.inr isLower)
    exact .inl (.inl (.inl isAlpha))
  · exact .inl (.inl (.inr digit))
  · exact .inl (.inr same)
  · exact .inr same

theorem lowerAscii_of_isPlainLetter {letter : Char} (plain : Dialect.isPlainLetter letter = true) :
    Text.lowerAscii letter = letter := by
  refine Text.lowerAscii_eq_self ?_
  simp only [Dialect.isPlainLetter, Bool.or_eq_true, Bool.and_eq_true, decide_eq_true_eq] at plain
  rcases plain with ((⟨lower, _⟩ | digit) | rfl) | rfl
  · have small : 97 ≤ letter.toNat := lower
    exact .inr (by omega)
  · simp only [Char.isDigit, Bool.and_eq_true, decide_eq_true_eq] at digit
    have low : letter.toNat ≤ 57 := digit.2
    exact .inl (by omega)
  · decide
  · decide

theorem start_word {letter : Char} (plain : Dialect.isPlainLetter letter = true)
    (notDollar : letter ≠ '$') (parameters : List (String × Value)) :
    start dialect position parameters letter = some ([], ⟨.word [letter], position, parameters⟩) := by
  have differs {other : Char} (special : Dialect.isPlainLetter other = false) : letter ≠ other := by
    rintro rfl
    rw [special] at plain
    cases plain
  -- The dollar is a letter of plain names and starts a mark, but starts no plain name.
  have notSign : letter ≠ dialect.markSign := by
    rcases dialect with _ | ⟨_ | _ | _⟩
    · exact differs rfl
    · exact differs rfl
    · exact notDollar
    · exact differs rfl
  have notQuote : letter ≠ dialect.nameQuote := by
    rcases dialect with _ | ⟨_ | _ | _⟩ <;> exact differs rfl
  have notBlank : letter ≠ ' ' := differs rfl
  have notLine : letter ≠ '\n' := differs rfl
  have notLiteral : letter ≠ '\'' := differs rfl
  simp [start, notSign, notQuote, notBlank, notLine, notLiteral, isWordLetter_of_isPlainLetter plain]

theorem letters_of_not_needsQuotes {name : String} (plain : dialect.needsQuotes name = false) :
    ∃ first rest, name.toList = first :: rest ∧ first.isDigit = false ∧ first ≠ '$' ∧
      (∀ letter ∈ first :: rest, Dialect.isPlainLetter letter = true) ∧
      dialect.reservedWords.contains name = false := by
  simp only [Dialect.needsQuotes, Bool.or_eq_false_iff, Bool.not_eq_false', List.all_eq_true] at plain
  obtain ⟨⟨starts, letters⟩, free⟩ := plain
  cases spelled : name.toList with
  | nil => simp [spelled] at starts
  | cons first rest =>
      rw [spelled] at starts letters
      simp only [Bool.or_eq_false_iff, decide_eq_false_iff_not] at starts
      exact ⟨first, rest, rfl, starts.1, starts.2, letters, free⟩

theorem ofWord_of_not_needsQuotes {name : String} (plain : dialect.needsQuotes name = false) :
    Lexeme.ofWord name.toList = .name name := by
  obtain ⟨first, rest, spelled, notDigit, _, letters, free⟩ := letters_of_not_needsQuotes plain
  have folded : name.toList.map Text.lowerAscii = name.toList := by
    rw [spelled, List.map_congr_left fun letter found =>
      lowerAscii_of_isPlainLetter (letters letter found)]
    exact List.map_id' _
  have unreserved : Keyword.ofSpelling? name = none := by
    refine List.find?_eq_none.mpr fun keyword _ same => ?_
    have reserved : dialect.reservedWords.contains keyword.spelling = true := by
      rcases dialect with _ | ⟨_ | _ | _⟩ <;> cases keyword <;> decide
    rw [eq_of_beq same, free] at reserved
    cases reserved
  rw [Lexeme.ofWord, folded, String.ofList_toList, unreserved]
  simp [spelled, notDigit]

theorem ends_identifier (name : String) : Ends dialect (dialect.identifier name) [.name name] := by
  intro position
  unfold Dialect.identifier
  cases quotes : dialect.needsQuotes name with
  | true =>
      have isName : quotedLexeme dialect.nameQuote name.toList = .name name := by
        rw [quotedLexeme, String.ofList_toList]
        rcases dialect with _ | ⟨_ | _ | _⟩ <;> rfl
      have twice (letter : Char) : dialect.isDoubled dialect.nameQuote letter =
          decide (letter = dialect.nameQuote) := by
        rcases dialect with _ | ⟨_ | _ | _⟩ <;> simp [Dialect.isDoubled, Dialect.nameQuote]
      have scans : Scans dialect position
          (dialect.nameQuote :: doubled dialect dialect.nameQuote name.toList ++ [dialect.nameQuote]) []
          [quotedLexeme dialect.nameQuote name.toList] _ := scans_quoted (.inr rfl) name.toList
      simp only [doubled, twice, decide_eq_true_eq] at scans
      rw [isName] at scans
      rw [if_pos rfl, String.toList_ofList]
      exact ⟨_, scans⟩
  | false =>
      obtain ⟨first, rest, spelled, _, notDollar, letters, _⟩ := letters_of_not_needsQuotes quotes
      obtain ⟨plain, others⟩ := List.forall_mem_cons.mp letters
      refine ⟨.word name.toList, [], _, .word _, ?_, fun later => ?_⟩
      · rw [ofWord_of_not_needsQuotes quotes]
        rfl
      · have begins : scan dialect ⟨.mark [], position, later⟩ [first] =
            some ([], ⟨.word [first], position, later⟩) := by
          simp [scan, step, startAfter, Mode.last?, start_word plain notDollar]
        have isWord (letter : Char) (found : letter ∈ rest) : isWordLetter letter = true :=
          isWordLetter_of_isPlainLetter (others letter found)
        rw [if_neg (by decide), spelled]
        exact scan_append begins (scan_word isWord [first] later)

theorem ends_textLiteral (text : String) :
    Ends dialect (dialect.textLiteral text) [.literal text] := by
  intro position
  have isLiteral : quotedLexeme '\'' text.toList = .literal text := by
    rw [quotedLexeme, String.ofList_toList, if_pos rfl]
  have letters : dialect.literalLetters text.toList = doubled dialect '\'' text.toList := by
    refine congrArg (List.flatMap · text.toList) (funext fun letter => ?_)
    by_cases quote : letter = '\''
    · simp [quote, Dialect.isDoubled]
    · simp [quote, Dialect.isDoubled]
  rw [Dialect.textLiteral, letters, ← isLiteral]
  simp only [String.toList_append, String.toList_ofList]
  exact ⟨_, scans_quoted (.inl rfl) text.toList⟩

theorem scan_mark (letters rest : List Char) (parameters : List (String × Value)) :
    scan dialect ⟨.mark letters, position, parameters⟩ (letters ++ rest) =
      scan dialect ⟨.mark [], position, parameters⟩ rest := by
  induction letters with
  | nil => rfl
  | cons letter letters ih =>
      rw [List.cons_append, scan]
      simp only [step, if_true]
      show (scan dialect ⟨.mark letters, position, parameters⟩ (letters ++ rest) >>= _) = _
      rw [ih]
      cases scan dialect ⟨.mark [], position, parameters⟩ rest <;> rfl

end Scanner

end RecordStore
