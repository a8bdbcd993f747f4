import RecordStore.Proofs.Lexemes

/-!
Reading lexemes as a search condition. `AND` binds its sides closer than `OR` does, parentheses bind
closest, and the `AND` of an interval belongs to it. Parentheses are read away: a condition holds what
they enclose, and not that they stood there.
-/

namespace RecordStore

inductive Operand where
  | column (table column : String)
  | applied (function table column : String)
  | bound (value : Value) (cast : List String)
  | literal (text : String)
  | constant (text : String)

inductive SearchCondition where
  | isNull (subject : Operand)
  | isNotNull (subject : Operand)
  | compare (comparison : Comparison) (left right : Operand)
  | like (subject pattern : Operand) (escape : Option Operand)
  | between (subject low high : Operand)
  | both (left right : SearchCondition)
  | either (left right : SearchCondition)

namespace SearchCondition

def conjuncts : SearchCondition → List SearchCondition
  | .both left right => left.conjuncts ++ right.conjuncts
  | condition => [condition]

def chain (join : SearchCondition → SearchCondition → SearchCondition) :
    List SearchCondition → Option SearchCondition
  | [] => none
  | [only] => some only
  | first :: rest => (chain join rest).map (join first)

end SearchCondition

inductive Atom where
  | operand (operand : Operand)
  | keyword (keyword : Keyword)
  | name (text : String)
  | symbol (letter : Char)

def Atom.ofLexemes : List Lexeme → List Atom
  | .name function :: .symbol '(' :: .name table :: .symbol '.' :: .name column :: .symbol ')' :: rest =>
    .operand (.applied function table column) :: ofLexemes rest
  | .name table :: .symbol '.' :: .name column :: rest =>
    .operand (.column table column) :: ofLexemes rest
  | .place value :: .symbol ':' :: .symbol ':' :: .name first :: .name second :: .name third ::
      .name fourth :: rest =>
    .operand (.bound value [first, second, third, fourth]) :: ofLexemes rest
  | .place value :: .symbol ':' :: .symbol ':' :: .name type :: rest =>
    .operand (.bound value [type]) :: ofLexemes rest
  | .place value :: rest => .operand (.bound value []) :: ofLexemes rest
  | .literal text :: rest => .operand (.literal text) :: ofLexemes rest
  | .number text :: rest => .operand (.constant text) :: ofLexemes rest
  | .keyword .true :: rest => .operand (.constant "true") :: ofLexemes rest
  | .keyword .false :: rest => .operand (.constant "false") :: ofLexemes rest
  | .keyword word :: rest => .keyword word :: ofLexemes rest
  | .name text :: rest => .name text :: ofLexemes rest
  | .symbol letter :: rest => .symbol letter :: ofLexemes rest
  | [] => []

inductive Phrase where
  | test (condition : SearchCondition)
  | both
  | either
  | opens
  | closes

def Phrase.ofAtoms : List Atom → Option (List Phrase)
  | .operand subject :: .keyword .is :: .keyword .null :: rest =>
    (ofAtoms rest).map (.test (.isNull subject) :: ·)
  | .operand subject :: .keyword .is :: .keyword .not :: .keyword .null :: rest =>
    (ofAtoms rest).map (.test (.isNotNull subject) :: ·)
  | .operand left :: .symbol '=' :: .operand right :: rest =>
    (ofAtoms rest).map (.test (.compare .equal left right) :: ·)
  | .operand left :: .symbol '!' :: .symbol '=' :: .operand right :: rest =>
    (ofAtoms rest).map (.test (.compare .notEqual left right) :: ·)
  | .operand left :: .symbol '>' :: .symbol '=' :: .operand right :: rest =>
    (ofAtoms rest).map (.test (.compare .atLeast left right) :: ·)
  | .operand subject :: .keyword .like :: .operand pattern :: .name "escape" :: .operand mark :: rest =>
    (ofAtoms rest).map (.test (.like subject pattern (some mark)) :: ·)
  | .operand subject :: .keyword .like :: .operand pattern :: rest =>
    (ofAtoms rest).map (.test (.like subject pattern none) :: ·)
  -- The `AND` of an interval is taken with it, before any other is looked for.
  | .operand subject :: .keyword .between :: .operand low :: .keyword .both :: .operand high :: rest =>
    (ofAtoms rest).map (.test (.between subject low high) :: ·)
  | .keyword .both :: rest => (ofAtoms rest).map (.both :: ·)
  | .keyword .either :: rest => (ofAtoms rest).map (.either :: ·)
  | .symbol '(' :: rest => (ofAtoms rest).map (.opens :: ·)
  | .symbol ')' :: rest => (ofAtoms rest).map (.closes :: ·)
  | [] => some []
  | _ => none

/-- An open disjunction: the alternatives that were read, and the factors of the next one. -/
structure Level where
  alternatives : List SearchCondition
  factors : List SearchCondition

namespace Level

def empty : Level := ⟨[], []⟩

def add (level : Level) (condition : SearchCondition) : Level :=
  ⟨level.alternatives, level.factors ++ [condition]⟩

def turn (level : Level) : Option Level :=
  (SearchCondition.chain .both level.factors).map fun alternative =>
    ⟨level.alternatives ++ [alternative], []⟩

def close (level : Level) : Option SearchCondition := do
  let last ← SearchCondition.chain .both level.factors
  SearchCondition.chain .either (level.alternatives ++ [last])

end Level

namespace SearchCondition

/-- Reads phrases into the innermost of the open disjunctions; `awaiting` says whether a test or a
parenthesis has to come next. -/
def readFrom : List Level → Level → Bool → List Phrase → Option SearchCondition
  | [], level, false, [] => level.close
  | outer, level, true, .test condition :: rest => readFrom outer (level.add condition) false rest
  | outer, level, true, .opens :: rest => readFrom (level :: outer) .empty true rest
  | next :: outer, level, false, .closes :: rest => do
    let condition ← level.close
    readFrom outer (next.add condition) false rest
  | outer, level, false, .both :: rest => readFrom outer level true rest
  | outer, level, false, .either :: rest => do
    let level ← level.turn
    readFrom outer level true rest
  | _, _, _, _ => none

def ofLexemes? (lexemes : List Lexeme) : Option SearchCondition := do
  let phrases ← Phrase.ofAtoms (Atom.ofLexemes lexemes)
  readFrom [] .empty true phrases

end SearchCondition

namespace Lexeme

def opensRestriction : Lexeme → Bool
  | .keyword .restrict => true
  | _ => false

def endsRestriction : Lexeme → Bool
  | .keyword .sort => true
  | .keyword .cut => true
  | _ => false

end Lexeme

namespace SqlText

def condition? (dialect : Dialect) (sql : SqlText) : Option SearchCondition := do
  let lexemes ← sql.lexemes? dialect
  SearchCondition.ofLexemes? lexemes

/-- The conjuncts of the restriction of a statement; there are none if it has no restriction. -/
def restriction? (dialect : Dialect) (sql : SqlText) : Option (List SearchCondition) := do
  let lexemes ← sql.lexemes? dialect
  match lexemes.dropWhile fun lexeme => !lexeme.opensRestriction with
  | [] => some []
  | _ :: rest =>
    let condition ← SearchCondition.ofLexemes? (rest.takeWhile fun lexeme => !lexeme.endsRestriction)
    pure condition.conjuncts

end SqlText

end RecordStore
