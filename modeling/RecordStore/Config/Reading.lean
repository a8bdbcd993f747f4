import RecordStore.Sql.Dialect
import RecordStore.Text.Blank
import RecordStore.Value.Display

/-!
Reading settings from dynamic values. Integers and truth values are also read from texts, bytes
and numbers; what cannot be read is reported as a fault of the setting.
-/

namespace RecordStore

inductive Fault where
  | noInteger
  | unreadableInteger
  | oversizedInteger
  | fractionalNumber
  | infiniteNumber
  | noTruthValue
  | unreadableTruthValue
  | noText
  | brokenText
  | unknownAdapter
  | negativeNumber
  | invalidTimeZone (zone : String)
  /-- A configuration does not change. -/
  | frozen
  deriving DecidableEq, Repr, Inhabited

namespace Fault

def code : Fault → String
  | noInteger => "int_type"
  | unreadableInteger => "int_parsing"
  | oversizedInteger => "int_parsing_size"
  | fractionalNumber => "int_from_float"
  | infiniteNumber => "finite_number"
  | noTruthValue => "bool_type"
  | unreadableTruthValue => "bool_parsing"
  | noText => "string_type"
  | brokenText => "string_unicode"
  | unknownAdapter => "enum"
  | negativeNumber => "value_error"
  | invalidTimeZone _ => "value_error"
  | frozen => "frozen_instance"

def message : Fault → String
  | noInteger => "Input should be a valid integer"
  | unreadableInteger => "Input should be a valid integer, unable to parse string as an integer"
  | oversizedInteger =>
    "Unable to parse input string as an integer, exceeded maximum size"
  | fractionalNumber => "Input should be a valid integer, got a number with a fractional part"
  | infiniteNumber => "Input should be a finite number"
  | noTruthValue => "Input should be a valid boolean"
  | unreadableTruthValue => "Input should be a valid boolean, unable to interpret input"
  | noText => "Input should be a valid string"
  | brokenText =>
    "Input should be a valid string, unable to parse raw data as a unicode string"
  | unknownAdapter => "Input should be 'mysql_adapter', 'postgres_adapter' or 'sqlite_adapter'"
  | negativeNumber => "Value error, must be >= 0"
  | invalidTimeZone zone => "Value error, invalid timezone: " ++ Text.quoted zone
  | frozen => "Instance is frozen"

end Fault

structure Issue where
  field : String
  fault : Fault
  deriving DecidableEq, Repr

namespace Reading

def isGrouped : List Char → Bool
  | [] => false
  | [digit] => digit.isDigit
  | digit :: '_' :: rest => digit.isDigit && isGrouped rest
  | digit :: rest => digit.isDigit && isGrouped rest

def dropZeroFraction (text : List Char) : Option (List Char) :=
  let whole := text.takeWhile fun letter => letter ≠ '.'
  let fraction := (text.drop whole.length).drop 1
  if fraction.all fun letter => letter = '0' then some whole else none

/-- The integer that a text spells: a sign, grouped digits and a fraction of zeros, with blanks
around. -/
def integerOfText? (text : String) : Option Int := do
  let (negative, rest) := Decimal.splitSign (Text.trimBlank text.toList)
  let whole ← dropZeroFraction rest
  if isGrouped whole then
    let number : Int := Decimal.ofDigits (whole.filter Char.isDigit)
    some (if negative then -number else number)
  else none

/-- The bound of integers that are read from binary numbers: `2 ^ 63`. -/
def integerBound : Int := 9223372036854775808

def integerOfDouble (number : Double) : Except Fault Int :=
  if !number.isFinite then .error .infiniteNumber
  else match number.toInt? with
    | none => .error .fractionalNumber
    | some value =>
      if -integerBound < value ∧ value < integerBound then .ok value else .error .oversizedInteger

def integerOfDecimal (number : Decimal) : Except Fault Int :=
  match number.toFraction? with
  | none => .error .infiniteNumber
  | some (numerator, denominator) =>
    if numerator % denominator = 0 then .ok (numerator / denominator)
    else .error .fractionalNumber

def integerOfText (text : Option String) : Except Fault Int :=
  match text.bind integerOfText? with
  | some value => .ok value
  | none => .error .unreadableInteger

def integer (value : Value) : Except Fault Int :=
  match value with
  | .integer value => .ok value
  | .boolean value => .ok (if value then 1 else 0)
  | .float value => integerOfDouble value
  | .decimal value => integerOfDecimal value
  | .bytes value => integerOfText (Text.ofUtf8? value)
  | value =>
    match value.asText? with
    | some text => integerOfText (some text)
    | none => .error .noInteger

def natural (value : Value) : Except Fault Nat := do
  let number ← integer value
  if number < 0 then .error .negativeNumber else .ok number.toNat

def truthWords : List (String × Bool) := [
  ("1", true), ("true", true), ("t", true), ("yes", true), ("y", true), ("on", true),
  ("0", false), ("false", false), ("f", false), ("no", false), ("n", false), ("off", false)]

def truthOfText (text : Option String) : Except Fault Bool :=
  let word? := text.map fun text => String.ofList (text.toList.map Text.lowerAscii)
  match word?.bind fun word => truthWords.lookup word with
  | some value => .ok value
  | none => .error .unreadableTruthValue

def truthOfInteger (number : Int) : Except Fault Bool :=
  if number = 0 then .ok false
  else if number = 1 then .ok true
  else if -integerBound ≤ number ∧ number < integerBound then .error .unreadableTruthValue
  else .error .noTruthValue

def truthOfDouble (number : Double) : Except Fault Bool :=
  match number.toInt? with
  | some value => truthOfInteger value
  | none => .error .noTruthValue

def truth (value : Value) : Except Fault Bool :=
  match value with
  | .boolean value => .ok value
  | .integer value => truthOfInteger value
  | .float value => truthOfDouble value
  | .decimal value => truthOfDouble value.toDouble
  | .bytes value => truthOfText (Text.ofUtf8? value)
  | value =>
    match value.asText? with
    | some text => truthOfText (some text)
    | none => .error .noTruthValue

def textOfBytes (bytes : List UInt8) : Except Fault String :=
  match Text.ofUtf8? bytes with
  | some text => .ok text
  | none => .error .brokenText

def text (value : Value) : Except Fault String :=
  match value with
  | .bytes value => textOfBytes value
  | .buffer value => textOfBytes value
  | value =>
    match value.asText? with
    | some text => .ok text
    | none => .error .noText

def optional {α : Type} (read : Value → Except Fault α) (value : Value) :
    Except Fault (Option α) :=
  match value with
  | .null => .ok none
  | value => (read value).map some

def adapter (value : Value) : Except Fault Adapter :=
  let name? := match value with
    | .bytes value => Text.ofUtf8? value
    | value => value.asText?
  match name?.bind Adapter.ofName? with
  | some adapter => .ok adapter
  | none => .error .unknownAdapter

end Reading
end RecordStore
