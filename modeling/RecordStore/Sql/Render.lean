import RecordStore.Sql.Statement
import RecordStore.Sql.Token
import RecordStore.Text.Blank

/-!
The tokens of predicates and statements in each dialect.
-/

namespace RecordStore

namespace Attribute

def reference (dialect : Dialect) (model : Model) (attr : Attribute) : String :=
  dialect.identifier model.table ++ "." ++ dialect.identifier attr.column

/-- The base name of the places for a column's operands has no underscore at its ends. -/
def placeBase (attr : Attribute) : String :=
  String.ofList (Text.trimmed (· == '_') attr.column.toList)

def bindType (attr : Attribute) : BindType :=
  if attr.name = identity.name then .bigInteger
  else match attr.type with
    | .integer => .integer
    | .text _ => .text
    | .boolean => .boolean
    | .float => .float
    | .moment => .moment

end Attribute

namespace Comparison

def symbol : Comparison → String
  | equal => " = "
  | notEqual => " != "
  | atLeast => " >= "

end Comparison

namespace Test

def operandToken (column : Attribute) (operand : Value) : Token :=
  .place column.placeBase (column.bindType.against operand) operand false

def tokens (dialect : Dialect) (model : Model) : Test → List Token
  | .isNull column => [.word (column.reference dialect model ++ " IS NULL")]
  | .isNotNull column => [.word (column.reference dialect model ++ " IS NOT NULL")]
  | .isTruth column value =>
    [.word (column.reference dialect model ++ " = " ++ dialect.truth value)]
  | .isNotTruth column value =>
    [.word (column.reference dialect model ++ " != " ++ dialect.truth value)]
  | .compare column comparison operand =>
    [.word (column.reference dialect model ++ comparison.symbol), operandToken column operand]
  | .like column lowered escaping pattern =>
    let reference := column.reference dialect model
    let subject := if lowered then "lower(" ++ reference ++ ")" else reference
    let place :=
      if lowered then Token.place "lower" (.ofValue pattern) pattern false
      else operandToken column pattern
    [.word (subject ++ " LIKE "), place] ++
      (if escaping then [.word (" ESCAPE " ++ dialect.textLiteral "\\")] else [])
  | .between column low high =>
    [.word (column.reference dialect model ++ " BETWEEN "), operandToken column low, .word " AND ",
      operandToken column high]

end Test

def joinTokens (separator : String) : List (List Token) → List Token
  | [] => []
  | [only] => only
  | first :: rest => first ++ .word separator :: joinTokens separator rest

namespace Predicate

def tokens (dialect : Dialect) (model : Model) (predicate : Predicate) : List Token :=
  joinTokens " OR " (predicate.alternatives.map (Test.tokens dialect model))

def groupedTokens (dialect : Dialect) (model : Model) (predicate : Predicate) : List Token :=
  match predicate.alternatives with
  | _ :: _ :: _ => .word "(" :: predicate.tokens dialect model ++ [.word ")"]
  | _ => predicate.tokens dialect model

/-- The tokens of a conjunction. Predicates that restrict nothing are left out, but count among
those that a disjunction stands beside. -/
def conjunctionTokens (dialect : Dialect) (model : Model) (predicates : List Predicate) :
    List Token :=
  let kept := predicates.filter fun predicate => !predicate.isVoid
  joinTokens " AND " (kept.map fun predicate =>
    if predicates.length ≤ 1 then predicate.tokens dialect model
    else predicate.groupedTokens dialect model)

def whereTokens (dialect : Dialect) (model : Model) (predicates : List Predicate) : List Token :=
  match conjunctionTokens dialect model predicates with
  | [] => []
  | tokens => .word " \nWHERE " :: tokens

end Predicate

def orderText (dialect : Dialect) (model : Model) (term : Attribute × Option Direction) : String :=
  term.1.reference dialect model ++ (match term.2 with
    | some direction => " " ++ direction.name
    | none => "")

def orderTokens (dialect : Dialect) (model : Model)
    (order : List (Attribute × Option Direction)) : List Token :=
  if order.isEmpty then []
  else [.word (" ORDER BY " ++ Value.commaSeparated (order.map (orderText dialect model)))]

def boundToken (bound : Int) : Token := .place "param" .integer (.integer bound) false

/-- The tokens of the window. Each dialect has its own way to leave a bound out: none, a filler
that is bound, or a filler in the text; MySQL writes the offset first. -/
def windowTokens (dialect : Dialect) (limit offset : Option Int) : List Token :=
  match dialect, limit, offset with
  | _, none, none => []
  | .generic, some limit, none => [.word "\n LIMIT ", boundToken limit]
  | .generic, none, some offset => [.word "\n LIMIT -1 OFFSET ", boundToken offset]
  | .generic, some limit, some offset =>
    [.word "\n LIMIT ", boundToken limit, .word " OFFSET ", boundToken offset]
  | .adapter .sqlite, some limit, offset =>
    [.word "\n LIMIT ", boundToken limit, .word " OFFSET ", boundToken (offset.getD 0)]
  | .adapter .sqlite, none, some offset =>
    [.word "\n LIMIT ", .place "param" .integer (.integer (-1)) true, .word " OFFSET ",
      boundToken offset]
  | .adapter .postgres, some limit, none => [.word " \n LIMIT ", boundToken limit]
  | .adapter .postgres, none, some offset => [.word "\n LIMIT ALL OFFSET ", boundToken offset]
  | .adapter .postgres, some limit, some offset =>
    [.word " \n LIMIT ", boundToken limit, .word " OFFSET ", boundToken offset]
  | .adapter .mysql, some limit, none => [.word " \n LIMIT ", boundToken limit]
  | .adapter .mysql, none, some offset =>
    [.word " \n LIMIT ", boundToken offset, .word ", 18446744073709551615"]
  | .adapter .mysql, some limit, some offset =>
    [.word " \n LIMIT ", boundToken offset, .word ", ", boundToken limit]

def columnList (dialect : Dialect) (model : Model) : String :=
  Value.commaSeparated (model.attributes.map fun attr => attr.reference dialect model)

namespace Selection

def tokens (dialect : Dialect) (selection : Selection) : List Token :=
  let model := selection.model
  .word ("SELECT " ++ columnList dialect model ++ " \nFROM " ++ dialect.identifier model.table) ::
    Predicate.whereTokens dialect model selection.predicates ++
    orderTokens dialect model selection.order ++
    windowTokens dialect selection.limit selection.offset

def render (dialect : Dialect) (selection : Selection) : SqlText :=
  .ofTokens dialect (selection.tokens dialect)

def renderLiteral (dialect : Dialect) (selection : Selection) : SqlText :=
  .ofTokens dialect ((selection.tokens dialect).map (Token.writeOut dialect))

end Selection

namespace Counting

def tokens (dialect : Dialect) (counting : Counting) : List Token :=
  let model := counting.model
  .word ("SELECT count(*) AS count_1 \nFROM " ++ dialect.identifier model.table) ::
    Predicate.whereTokens dialect model counting.predicates

def render (dialect : Dialect) (counting : Counting) : SqlText :=
  .ofTokens dialect (counting.tokens dialect)

end Counting

def Predicate.render (dialect : Dialect) (model : Model) (predicate : Predicate) : SqlText :=
  .ofTokens dialect (predicate.tokens dialect model)

end RecordStore
