import RecordStore.Filter.Condition
import RecordStore.Number.Decimal
import RecordStore.Order.Direction
import RecordStore.Time.DateTime

/-!
Dynamic values: what a caller may put into a filter, a record or an identifier. The classes of
values that filters distinguish (texts, sequences, mappings) and the absent value are predicates
here.
-/

namespace RecordStore

inductive Value where
  | null
  | boolean (value : Bool)
  | integer (value : Int)
  | float (value : Double)
  | text (value : String)
  | bytes (value : List UInt8)
  | buffer (value : List UInt8)
  | list (items : List Value)
  | tuple (items : List Value)
  | set (items : List Value)
  | mapping (entries : List (Value × Value))
  | range (start stop step : Int)
  /-- The two ends of a closed interval; an end left out is the empty text. -/
  | bounds (low high : Value)
  | decimal (value : Decimal)
  | moment (value : DateTime)
  | condition (value : Condition)
  | direction (value : Direction)
  /-- An object of no particular class, with its attributes. -/
  | thing (attributes : List (String × Value))
  /-- A record of a model, with the attributes it holds. -/
  | record (model : String) (attributes : List (String × Value))
  deriving Inhabited, Repr

namespace Value

/-- The value of a field that was not given. -/
def empty : Value := .text ""

def typeName : Value → String
  | .null => "NoneType"
  | .boolean _ => "bool"
  | .integer _ => "int"
  | .float _ => "float"
  | .text _ => "str"
  | .bytes _ => "bytes"
  | .buffer _ => "bytearray"
  | .list _ => "list"
  | .tuple _ => "tuple"
  | .set _ => "set"
  | .mapping _ => "dict"
  | .range .. => "range"
  | .bounds .. => "CompareFilter"
  | .decimal _ => "Decimal"
  | .moment _ => "datetime"
  | .condition _ => "ConditionKind"
  | .direction _ => "SortDirection"
  | .thing _ => "Thing"
  | .record model _ => model

/-- The text that a value is: condition kinds and directions are texts too. -/
def asText? : Value → Option String
  | .text value => some value
  | .condition value => some value.name
  | .direction value => some value.name
  | _ => none

def isText (value : Value) : Bool := value.asText?.isSome

def isAbsent : Value → Bool
  | .null => true
  | value => value.asText? == some ""

def rangeLength (start stop step : Int) : Nat :=
  if 0 < step then ((stop - start + step - 1) / step).toNat
  else if step < 0 then ((start - stop - step - 1) / (-step)).toNat
  else 0

def rangeItems (start stop step : Int) : List Value :=
  (List.range (rangeLength start stop step)).map fun (index : Nat) => .integer (start + step * index)

def items? : Value → Option (List Value)
  | .list items => some items
  | .tuple items => some items
  | .range start stop step => some (rangeItems start stop step)
  | .buffer value => some (value.map fun byte => .integer byte.toNat)
  | _ => none

def isMapping : Value → Bool
  | .mapping _ => true
  | _ => false

def isBounds : Value → Bool
  | .bounds .. => true
  | _ => false

def isScalar (value : Value) : Bool :=
  !value.isBounds && !value.isMapping && value.items?.isNone

def isRecord : Value → Bool
  | .record .. => true
  | _ => false

def number? : Value → Option ExactNumber
  | .boolean value => some (.ofInt (if value then 1 else 0))
  | .integer value => some (.ofInt value)
  | .float value => some (.ofDouble value)
  | .decimal value => some (.ofDecimal value)
  | _ => none

def attribute? (name : String) : Value → Option Value
  | .thing attributes => attributes.lookup name
  | .record _ attributes => some ((attributes.lookup name).getD .null)
  | _ => none

theorem isAbsent_iff (value : Value) :
    value.isAbsent = true ↔ value = .null ∨ value.asText? = some "" := by
  cases value <;> simp [isAbsent, asText?]

end Value
end RecordStore
