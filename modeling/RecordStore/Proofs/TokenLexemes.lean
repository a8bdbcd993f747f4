import RecordStore.Proofs.Lexemes
import RecordStore.Proofs.TokenText

/-!
The lexemes of tokens: of the words between the names and places of a statement, of its places, and of
tests.
-/

namespace RecordStore

open Scanner

namespace BindType

def castWords : BindType → List String
  | untyped => []
  | integer => ["integer"]
  | bigInteger => ["bigint"]
  | text => ["varchar"]
  | boolean => ["boolean"]
  | float => ["float"]
  | numeric => ["numeric"]
  | moment => ["timestamp", "without", "time", "zone"]
  | bytes => ["bytea"]

def wordsIn (dialect : Dialect) (type : BindType) : List String :=
  match dialect with
  | .adapter .postgres => type.castWords
  | _ => []

def castLexemes : List String → List Lexeme
  | [] => []
  | words => .symbol ':' :: .symbol ':' :: words.map .name

def castLetters (dialect : Dialect) (type : BindType) : List Char :=
  match dialect with
  | .adapter .postgres => match type.castName? with
    | some cast => ':' :: ':' :: cast.toList
    | none => []
  | _ => []

end BindType

def Attribute.lexemes (model : Model) (attr : Attribute) : List Lexeme :=
  [.name model.table, .symbol '.', .name attr.column]

def Comparison.lexemes : Comparison → List Lexeme
  | .equal => [.symbol '=']
  | .notEqual => [.symbol '!', .symbol '=']
  | .atLeast => [.symbol '>', .symbol '=']

def Dialect.truthLexeme (dialect : Dialect) (value : Bool) : Lexeme :=
  if dialect.hasTruthConstants then .keyword (if value then .true else .false)
  else .number (if value then "1" else "0")

namespace Scanner

variable {dialect : Dialect} {position : Nat} {text : String} {lexemes : List Lexeme}

theorem startsApart_of {letter : Char} {letters : List Char} (spelled : text.toList = letter :: letters)
    (listed : letter ∈ [' ', '\n', '.', ',', ')']) : StartsApart dialect text := by
  refine ⟨letter, letters, spelled, ?_⟩
  have apart : ∀ other ∈ [' ', '\n', '.', ',', ')'], isApart dialect other = true := by
    simp only [List.forall_mem_cons, List.not_mem_nil, false_imp_iff, forall_const, and_true]
    rcases dialect with _ | ⟨_ | _ | _⟩ <;> and_intros <;> rfl
  exact apart letter listed

def signs : List (String × List Lexeme) := [
  (".", [.symbol '.']), (", ", [.symbol ',']), ("(", [.symbol '(']), (")", [.symbol ')']),
  ("lower(", [.name "lower", .symbol '(']), (" = ", [.symbol '=']),
  (" != ", [.symbol '!', .symbol '=']), (" >= ", [.symbol '>', .symbol '=']),
  (" LIKE ", [.keyword .like]), (" ESCAPE ", [.name "escape"]), (" BETWEEN ", [.keyword .between]),
  (" AND ", [.keyword .both]), (" OR ", [.keyword .either]), (" \nWHERE ", [.keyword .restrict]),
  ("SELECT ", [.name "select"]), (" \nFROM ", [.name "from"]),
  (" ORDER BY ", [.keyword .sort, .name "by"]), ("\n LIMIT ", [.keyword .cut]),
  (" \n LIMIT ", [.keyword .cut]),
  ("\n LIMIT -1 OFFSET ", [.keyword .cut, .symbol '-', .number "1", .name "offset"]),
  ("\n LIMIT ALL OFFSET ", [.keyword .cut, .name "all", .name "offset"]),
  (" OFFSET ", [.name "offset"])]

theorem closes_sign (listed : (text, lexemes) ∈ signs) : Closes dialect text lexemes := by
  intro position
  refine scans_of_scan fun later => ?_
  have reads : ∀ sign ∈ signs, scan dialect ⟨.mark [], position, [] ++ later⟩ sign.1.toList =
      some (sign.2, ⟨.mark [], position + 0, later⟩) := by
    simp only [signs, List.forall_mem_cons, List.not_mem_nil, false_imp_iff, forall_const, and_true]
    rcases dialect with _ | ⟨_ | _ | _⟩ <;> and_intros <;> rfl
  exact reads (text, lexemes) listed

theorem toList_mark (name : String) (type : BindType) :
    (NamedToken.mark dialect position name type).toList =
      dialect.markSign :: (dialect.markLetters position name ++ type.castLetters dialect) := by
  rcases dialect with _ | ⟨_ | _ | _⟩
  · simp [NamedToken.mark, Dialect.markSign, Dialect.markLetters, BindType.castLetters]
  · simp [NamedToken.mark, Dialect.markSign, Dialect.markLetters, BindType.castLetters]
  · cases type <;>
      simp [NamedToken.mark, Dialect.markSign, Dialect.markLetters, BindType.castLetters,
        BindType.castName?]
  · simp [NamedToken.mark, Dialect.markSign, Dialect.markLetters, BindType.castLetters]

theorem scans_castLetters (type : BindType) : ∃ mode,
    Scans dialect position (type.castLetters dialect) [] (BindType.castLexemes (type.wordsIn dialect))
      mode := by
  rcases dialect with _ | ⟨_ | _ | _⟩
  · exact ⟨_, scans_of_scan fun later => rfl⟩
  · exact ⟨_, scans_of_scan fun later => rfl⟩
  · cases type with
    | untyped => exact ⟨_, scans_of_scan fun later => rfl⟩
    | _ =>
        refine ⟨_, _, _, .word _, ?_, fun later => rfl⟩
        rfl
  · exact ⟨_, scans_of_scan fun later => rfl⟩

theorem step_markSign (name : String) (value : Value) (later : List (String × Value)) :
    step dialect ⟨.mark [], position, (name, value) :: later⟩ dialect.markSign =
      some ([.place value], ⟨.mark (dialect.markLetters position name), position + 1, later⟩) := by
  rcases dialect with _ | ⟨_ | _ | _⟩ <;> rfl

theorem scans_mark (name : String) (type : BindType) (value : Value) : ∃ mode,
    Scans dialect position (NamedToken.mark dialect position name type).toList [(name, value)]
      (.place value :: BindType.castLexemes (type.wordsIn dialect)) mode := by
  have cast : ∃ mode, Scans dialect (position + 1) (type.castLetters dialect) []
    (BindType.castLexemes (type.wordsIn dialect)) mode := scans_castLetters type
  obtain ⟨mode, early, last, rests, read, scans⟩ := cast
  refine ⟨mode, .place value :: early, last, rests, by rw [← read]; rfl, fun later => ?_⟩
  rw [toList_mark, scan]
  show (step dialect ⟨.mark [], position, (name, value) :: later⟩ dialect.markSign >>= _) = _
  rw [step_markSign]
  show (scan dialect _ (_ ++ _) >>= _) = _
  have scanned := scans later
  rw [scan_mark]
  rw [List.nil_append] at scanned
  rw [scanned]
  rfl

theorem ends_reference (model : Model) (attr : Attribute) :
    Ends dialect (attr.reference dialect model) (attr.lexemes model) := by
  have dot : Closes dialect "." [.symbol '.'] := closes_sign (by simp [signs])
  have apart : StartsApart dialect ("." : String) := startsApart_of rfl (by decide)
  have dotted := (ends_identifier model.table).append_closes apart dot
  exact dotted.append_ends (ends_identifier attr.column)

theorem ends_isNull : Ends dialect " IS NULL" [.keyword .is, .keyword .null] := by
  refine fun position => ⟨.word "NULL".toList, [.keyword .is], _, .word _, rfl, fun later => ?_⟩
  rcases dialect with _ | ⟨_ | _ | _⟩ <;> rfl

theorem ends_isNotNull : Ends dialect " IS NOT NULL" [.keyword .is, .keyword .not, .keyword .null] := by
  refine fun position =>
    ⟨.word "NULL".toList, [.keyword .is, .keyword .not], _, .word _, rfl, fun later => ?_⟩
  rcases dialect with _ | ⟨_ | _ | _⟩ <;> rfl

theorem ends_truth (value : Bool) : Ends dialect (dialect.truth value) [dialect.truthLexeme value] := by
  refine fun position => ⟨.word (dialect.truth value).toList, [], _, .word _, ?_, fun later => ?_⟩
  · rcases dialect with _ | ⟨_ | _ | _⟩ <;> cases value <;> rfl
  · rcases dialect with _ | ⟨_ | _ | _⟩ <;> cases value <;> rfl

theorem closes_symbol (comparison : Comparison) :
    Closes dialect comparison.symbol comparison.lexemes := by
  cases comparison with
  | equal => exact closes_sign (by simp [signs, Comparison.symbol, Comparison.lexemes])
  | notEqual => exact closes_sign (by simp [signs, Comparison.symbol, Comparison.lexemes])
  | atLeast => exact closes_sign (by simp [signs, Comparison.symbol, Comparison.lexemes])

theorem ends_escape : Ends dialect (" ESCAPE " ++ dialect.textLiteral "\\")
    [.name "escape", .literal "\\"] := by
  have word : Closes dialect " ESCAPE " [.name "escape"] := closes_sign (by simp [signs])
  exact word.append_ends (ends_textLiteral "\\")

end Scanner

namespace Token

variable {dialect : Dialect} {left right : List Token} {text : String} {lexemes others : List Lexeme}

/-- Tokens are read as lexemes, whatever tokens are before them. -/
def Reads (dialect : Dialect) (tokens : List Token) (lexemes : List Lexeme) : Prop :=
  ∀ before, ∃ mode, Scans dialect (placeCount before + 1)
    (SqlText.behind dialect before tokens).text.toList
    (SqlText.behind dialect before tokens).parameters lexemes mode

theorem length_parameters_behind (dialect : Dialect) (before tokens : List Token) :
    (SqlText.behind dialect before tokens).parameters.length = placeCount tokens := by
  induction tokens generalizing before with
  | nil => rfl
  | cons token tokens ih =>
      cases token with
      | word text => rw [SqlText.behind_word, placeCount_word, ih]
      | place base type value fixed =>
          rw [SqlText.behind_place, placeCount_place]
          dsimp only
          rw [List.length_cons, ih]

theorem Reads.append (first : Reads dialect left lexemes) (starts : StartsApart dialect text)
    (second : Reads dialect (.word text :: right) others) :
    Reads dialect (left ++ .word text :: right) (lexemes ++ others) := by
  intro before
  obtain ⟨_, scans⟩ := first before
  obtain ⟨mode, scansMore⟩ := second (before ++ left)
  obtain ⟨letter, letters, spelled, apart⟩ := starts
  have position : placeCount (before ++ left) + 1 =
      placeCount before + 1 + (SqlText.behind dialect before left).parameters.length := by
    rw [length_parameters_behind, placeCount_append]
    omega
  rw [position, SqlText.behind_word, String.toList_append, spelled, List.cons_append] at scansMore
  refine ⟨mode, ?_⟩
  rw [SqlText.behind_append, SqlText.text_append, SqlText.parameters_append, SqlText.behind_word,
    String.toList_append, String.toList_append, spelled, List.cons_append]
  exact scans.append_apart apart scansMore

theorem Reads.cons (closes : Closes dialect text lexemes) (second : Reads dialect right others) :
    Reads dialect (.word text :: right) (lexemes ++ others) := by
  intro before
  obtain ⟨mode, scans⟩ := second before
  refine ⟨mode, ?_⟩
  rw [SqlText.behind_word, String.toList_append]
  exact (closes _).append scans

theorem Reads.word (ends : Ends dialect text lexemes) : Reads dialect [.word text] lexemes := by
  intro before
  obtain ⟨mode, scans⟩ := ends (placeCount before + 1)
  refine ⟨mode, ?_⟩
  rw [SqlText.behind_word, SqlText.behind_nil, String.append_empty]
  exact scans

def placeLexemes (dialect : Dialect) (type : BindType) (value : Value) : List Lexeme :=
  .place value :: BindType.castLexemes (type.wordsIn dialect)

theorem Reads.place (base : String) (type : BindType) (value : Value) (fixed : Bool) :
    Reads dialect [.place base type value fixed] (placeLexemes dialect type value) := by
  intro before
  obtain ⟨mode, scans⟩ := scans_mark (placeName base (countBase base before)) type value
  refine ⟨mode, ?_⟩
  rw [SqlText.behind_place, SqlText.behind_nil]
  dsimp only
  rw [String.append_empty]
  exact scans

end Token

namespace Test

def lexemes (dialect : Dialect) (model : Model) : Test → List Lexeme
  | .isNull column => column.lexemes model ++ [.keyword .is, .keyword .null]
  | .isNotNull column => column.lexemes model ++ [.keyword .is, .keyword .not, .keyword .null]
  | .isTruth column value => column.lexemes model ++ [.symbol '=', dialect.truthLexeme value]
  | .isNotTruth column value =>
    column.lexemes model ++ [.symbol '!', .symbol '=', dialect.truthLexeme value]
  | .compare column comparison operand =>
    column.lexemes model ++ comparison.lexemes ++
      Token.placeLexemes dialect (column.bindType.against operand) operand
  | .like column lowered escaping pattern =>
    let subject := if lowered then
        [.name "lower", .symbol '('] ++ column.lexemes model ++ [.symbol ')']
      else column.lexemes model
    let type := if lowered then .ofValue pattern else column.bindType.against pattern
    subject ++ [.keyword .like] ++ (Token.placeLexemes dialect type pattern ++
      if escaping then [.name "escape", .literal "\\"] else [])
  | .between column low high =>
    column.lexemes model ++ [.keyword .between] ++
      (Token.placeLexemes dialect (column.bindType.against low) low ++ ([.keyword .both] ++
      Token.placeLexemes dialect (column.bindType.against high) high))

variable {dialect : Dialect}

theorem closes_subject {text subject : String} {letters : List Char} {column lexemes : List Lexeme}
    (listed : (text, lexemes) ∈ signs) (blank : text.toList = ' ' :: letters)
    (reads : Ends dialect subject column) : Closes dialect (subject ++ text) (column ++ lexemes) :=
  reads.append_closes (startsApart_of blank (by decide)) (closes_sign listed)

theorem ends_lowered (model : Model) (column : Attribute) :
    Ends dialect ("lower(" ++ column.reference dialect model ++ ")")
      ([.name "lower", .symbol '('] ++ column.lexemes model ++ [.symbol ')']) := by
  have opens : Closes dialect "lower(" [.name "lower", .symbol '('] := closes_sign (by simp [signs])
  have closes : Closes dialect ")" [.symbol ')'] := closes_sign (by simp [signs])
  have inside := opens.append_ends (ends_reference model column)
  exact (inside.append_closes (startsApart_of rfl (by decide)) closes).ends

theorem reads_pattern (base : String) (type : BindType) (pattern : Value) (escaping : Bool) :
    Token.Reads dialect ([.place base type pattern false] ++
        if escaping then [.word (" ESCAPE " ++ dialect.textLiteral "\\")] else [])
      (Token.placeLexemes dialect type pattern ++
        if escaping then [.name "escape", .literal "\\"] else []) := by
  have place : Token.Reads dialect [.place base type pattern false] _ := .place base type pattern false
  cases escaping with
  | false => simpa using place
  | true =>
      have spelled : (" ESCAPE " ++ dialect.textLiteral "\\").toList =
          ' ' :: ("ESCAPE ".toList ++ (dialect.textLiteral "\\").toList) := by
        rw [String.toList_append]
        rfl
      exact place.append (startsApart_of spelled (by decide)) (.word ends_escape)

theorem reads_tokens (model : Model) (test : Test) :
    Token.Reads dialect (test.tokens dialect model) (test.lexemes dialect model) := by
  cases test with
  | isNull column =>
      exact .word ((ends_reference model column).append (startsApart_of rfl (by decide)) ends_isNull)
  | isNotNull column =>
      exact .word ((ends_reference model column).append (startsApart_of rfl (by decide)) ends_isNotNull)
  | isTruth column value =>
      have listed : (" = ", [Lexeme.symbol '=']) ∈ signs := by simp [signs]
      have sign : Closes dialect (column.reference dialect model ++ " = ") _ :=
        closes_subject listed rfl (ends_reference model column)
      simpa [tokens, lexemes] using Token.Reads.word (sign.append_ends (ends_truth value))
  | isNotTruth column value =>
      have listed : (" != ", [Lexeme.symbol '!', .symbol '=']) ∈ signs := by simp [signs]
      have sign : Closes dialect (column.reference dialect model ++ " != ") _ :=
        closes_subject listed rfl (ends_reference model column)
      simpa [tokens, lexemes] using Token.Reads.word (sign.append_ends (ends_truth value))
  | compare column comparison operand =>
      have starts : StartsApart dialect comparison.symbol := by
        cases comparison <;> exact startsApart_of rfl (by decide)
      have sign := (ends_reference model column).append_closes starts (closes_symbol comparison)
      exact .cons sign (.place _ _ _ _)
  | like column lowered escaping pattern =>
      have listed : (" LIKE ", [Lexeme.keyword .like]) ∈ signs := by simp [signs]
      cases lowered with
      | false =>
          exact .cons (closes_subject listed rfl (ends_reference model column))
            (reads_pattern _ _ pattern escaping)
      | true =>
          exact .cons (closes_subject listed rfl (ends_lowered model column))
            (reads_pattern _ _ pattern escaping)
  | between column low high =>
      have listed : (" BETWEEN ", [Lexeme.keyword .between]) ∈ signs := by simp [signs]
      have and : Closes dialect " AND " [.keyword .both] := closes_sign (by simp [signs])
      have bounds := (Token.Reads.place column.placeBase (column.bindType.against low) low false).append
        (startsApart_of rfl (by decide)) (.cons and
          (.place column.placeBase (column.bindType.against high) high false))
      exact .cons (closes_subject listed rfl (ends_reference model column)) bounds

end Test

end RecordStore
