import RecordStore.Model.Basic
import RecordStore.Number.Shortest
import RecordStore.Text.Quoted

/-!
Cells: what a table stores. Cells are ordered, null first, then numbers by their exact value, then
texts by code point, then strings of bytes. A column draws the cells that are put into it or
compared with it towards its own kind.
-/

namespace RecordStore

inductive Cell where
  | null
  | integer (value : Int)
  | real (value : Double)
  | text (value : String)
  | blob (value : List UInt8)
  deriving DecidableEq, Repr, Inhabited

inductive Affinity where
  | text
  | numeric
  | real
  deriving DecidableEq, Repr

/-- The affinity of a column type. Moments are stored as texts in a numeric column. -/
def ColumnType.affinity : ColumnType → Affinity
  | .text _ => .text
  | .float => .real
  | _ => .numeric

def NumberLayout.stored : NumberLayout := ⟨-4, 15, true⟩

def Double.toStoredText : Double → String
  | .nan => ""
  | .infinity negative => (if negative then "-" else "") ++ "Inf"
  | .finite negative significand exponent =>
    if significand = 0 then "0.0"
    else (if negative then "-" else "") ++
      NumberLayout.stored.render (Double.rounded 15 significand exponent)

namespace Cell

def fits (value : Int) : Bool := -9223372036854775808 ≤ value && value < 9223372036854775808

/-- The exact number that a cell is. Not-a-number, which is bound as null, is none. -/
def number? : Cell → Option ExactNumber
  | .integer value => some (.ofInt value)
  | .real .nan => none
  | .real value => some (.ofDouble value)
  | _ => none

def rank : Cell → Nat
  | .null => 0
  | .integer _ => 1
  | .real .nan => 0
  | .real _ => 1
  | .text _ => 2
  | .blob _ => 3

def less : Cell → Cell → Bool
  | .text left, .text right => decide (left < right)
  | .blob left, .blob right => decide (left < right)
  | left, right =>
    match left.number?, right.number? with
    | some number, some other => number.less other
    | _, _ => decide (left.rank < right.rank)

def same : Cell → Cell → Bool
  | .text left, .text right => left == right
  | .blob left, .blob right => left == right
  | left, right =>
    match left.number?, right.number? with
    | some number, some other => number.equals other
    | _, _ => left.rank == right.rank

/-- The text of bytes; bytes that spell none have the empty text. -/
def textOfBytes (bytes : List UInt8) : String :=
  (Text.ofUtf8? bytes).getD ""

def asText? : Cell → Option String
  | .null => none
  | .integer value => some (toString value)
  | .real value => some value.toStoredText
  | .text value => some value
  | .blob value => some (textOfBytes value)

def isBlank (letter : Char) : Bool := letter = ' ' || (9 ≤ letter.toNat && letter.toNat ≤ 13)

/-- A number in a numeric column: an integer where it is one and is not too large. -/
def settle (value : Double) : Cell :=
  match value.toInt? with
  | some number =>
    if -9223372036854775808 < number ∧ number < 9223372036854775807 then .integer number else .real value
  | none => .real value

def settleReal : Double → Cell
  | .finite negative significand exponent =>
    .real (.finite (negative && significand != 0) significand exponent)
  | value => .real value

def realOfInt (value : Int) : Cell :=
  .real ((Double.ofQuotient? (value < 0) value.natAbs 1).getD (.infinity (value < 0)))

def ofNumericText? (text : String) : Option Cell :=
  let trimmed := ((text.toList.dropWhile isBlank).reverse.dropWhile isBlank).reverse
  let (negative, digits) := Decimal.splitSign trimmed
  match Decimal.ofDigitText? negative digits with
  | none => none
  | some number =>
    let whole : Int := if negative then -(Decimal.ofDigits digits : Int) else Decimal.ofDigits digits
    if digits.all Char.isDigit ∧ fits whole then some (.integer whole)
    else some (.real number.toDouble)

def drawn (affinity : Affinity) (cell : Cell) : Cell :=
  match affinity, cell with
  | .text, .integer value => .text (toString value)
  | .text, .real value => .text value.toStoredText
  | .numeric, .real value => settle value
  | .numeric, .text word =>
    match ofNumericText? word with
    | some (.real value) => settle value
    | some number => number
    | none => .text word
  | .real, .integer value => realOfInt value
  | .real, .real value => settleReal value
  | .real, .text word =>
    match ofNumericText? word with
    | some (.integer value) => realOfInt value
    | some (.real value) => settleReal value
    | _ => .text word
  | _, cell => cell

/-- A cell as it is compared with a column of an affinity: a text beside numbers is read as one,
and a number beside texts is written as one. -/
def compared (affinity : Affinity) (cell : Cell) : Cell :=
  match affinity, cell with
  | .text, cell => cell.drawn .text
  | _, .text word => (ofNumericText? word).getD (.text word)
  | _, cell => cell

def toValue (type : ColumnType) : Cell → Value
  | .null => .null
  | .integer value => if type = .boolean then .boolean (value ≠ 0) else .integer value
  | .real value => .float value
  | .text value =>
    match type, DateTime.ofText? value with
    | .moment, some moment => .moment moment
    | _, _ => .text value
  | .blob value => .bytes value

@[simp] theorem drawn_null (affinity : Affinity) : drawn affinity .null = .null := by
  cases affinity <;> rfl

@[simp] theorem compared_null (affinity : Affinity) : compared affinity .null = .null := by
  cases affinity <;> rfl

end Cell
end RecordStore
