import RecordStore.Sql.Render
import RecordStore.Store.Cell
import RecordStore.Text.Blank

/-!
Binding values to a statement. Every value is first prepared for the type of its place; only then
are the prepared values bound, from left to right.
-/

namespace RecordStore

def Value.numericText? : Value → Option String
  | .bytes content => some (Cell.textOfBytes content)
  | .buffer content => some (Cell.textOfBytes content)
  | value => value.asText?

/-- Whether a value can change in place; no set holds such a value. -/
def Value.isMutable : Value → Bool
  | .list _ => true
  | .set _ => true
  | .mapping _ => true
  | .buffer _ => true
  | _ => false

namespace BindType

def prepareFloat (value : Value) : Except StoreFailure Value :=
  match value, value.number? with
  | .float number, _ => .ok (.float number)
  | .decimal number, _ => .ok (.float number.toDouble)
  | _, some (.fraction numerator _) =>
    match Double.ofQuotient? (numerator < 0) numerator.natAbs 1 with
    | some number => .ok (.float number)
    | none => .error (.unsuitableValue "OverflowError" "int too large to convert to float")
  | _, _ =>
    match value.numericText? with
    | none =>
      .error (.unsuitableValue "TypeError"
        ("float() argument must be a string or a real number, not '" ++ value.typeName ++ "'"))
    | some word =>
      match Decimal.ofText? (String.ofList (Text.trimBlank word.toList)) with
      | some number => .ok (.float number.toDouble)
      | none =>
        .error (.unsuitableValue "ValueError"
          ("could not convert string to float: " ++ value.literal))

def prepareTruth (value : Value) : Except StoreFailure Value :=
  if value.isMutable then
    .error (.unsuitableValue "TypeError" ("unhashable type: '" ++ value.typeName ++ "'"))
  else if value.same (.boolean true) then .ok (.integer 1)
  else if value.same (.boolean false) then .ok (.integer 0)
  else match value with
    | .integer _ =>
      .error (.unsuitableValue "ValueError"
        ("Value " ++ value.literal ++ " is not None, True, or False"))
    | _ => .error (.unsuitableValue "TypeError" ("Not a boolean value: " ++ value.literal))

def prepare (type : BindType) (value : Value) : Except StoreFailure Value :=
  match type, value with
  | _, .null => .ok .null
  | .boolean, value => prepareTruth value
  | .float, value => prepareFloat value
  | .numeric, value => prepareFloat value
  | .moment, .moment time => .ok (.text time.toStored)
  | .moment, _ =>
    .error (.unsuitableValue "TypeError"
      "SQLite DateTime type only accepts Python datetime and date objects as input.")
  | _, value => .ok value

end BindType

namespace Cell

def bindingTypeName : Value → String
  | .decimal _ => "decimal.Decimal"
  | value => value.typeName

def bind (position : Nat) (value : Value) : Except StoreFailure Cell :=
  match value with
  | .null => .ok .null
  | .boolean value => .ok (.integer (if value then 1 else 0))
  | .integer value => if fits value then .ok (.integer value) else .error .integerTooLarge
  | .float .nan => .ok .null
  | .float value => .ok (.real value)
  | .bytes value => .ok (.blob value)
  | .buffer value => .ok (.blob value)
  | .moment time => .ok (.text time.toPlain)
  | value =>
    match value.asText? with
    | some word => .ok (.text word)
    | none => .error (.unsupportedBinding position (bindingTypeName value))

def bindFrom : Nat → List Value → Except StoreFailure (List Cell)
  | _, [] => .ok []
  | position, value :: rest => do
    let cell ← bind position value
    let cells ← bindFrom (position + 1) rest
    pure (cell :: cells)

def bindAll (places : List (BindType × Value)) : Except StoreFailure (List Cell) := do
  let prepared ← places.mapM fun place => place.1.prepare place.2
  bindFrom 1 prepared

def ofValue (type : BindType) (value : Value) : Cell :=
  match (type.prepare value).bind (bind 1) with
  | .ok cell => cell
  | .error _ => .null

end Cell

def Token.binding? : Token → Option (BindType × Value)
  | .word _ => none
  | .place _ type value _ => some (type, value)

def Token.checkBindings (tokens : List Token) : Except StoreFailure Unit :=
  (Cell.bindAll (tokens.filterMap Token.binding?)).map fun _ => ()

end RecordStore
