import RecordStore.Number.Shortest
import RecordStore.Text.Quoted
import RecordStore.Value.Basic

/-!
Texts of values: the literal form, in which a text is quoted, and the plain form, in which it is
not.
-/

namespace RecordStore

def NumberLayout.message : NumberLayout := ⟨-4, 16, false⟩

def Double.toText : Double → String
  | .nan => "nan"
  | .infinity negative => (if negative then "-" else "") ++ "inf"
  | .finite negative significand exponent =>
    (if negative then "-" else "") ++
      (if significand = 0 then "0.0"
       else NumberLayout.message.render (Double.shortest significand exponent))

namespace Value

def commaSeparated (texts : List String) : String := String.intercalate ", " texts

mutual

def literal : Value → String
  | .null => "None"
  | .boolean value => if value then "True" else "False"
  | .integer value => toString value
  | .float value => value.toText
  | .text value => Text.quoted value
  | .bytes value => Text.quotedBytes value
  | .buffer value => "bytearray(" ++ Text.quotedBuffer value ++ ")"
  | .list items => "[" ++ commaSeparated (literals items) ++ "]"
  | .tuple items =>
    match literals items with
    | [only] => "(" ++ only ++ ",)"
    | texts => "(" ++ commaSeparated texts ++ ")"
  | .set items =>
    match literals items with
    | [] => "set()"
    | texts => "\x7b" ++ commaSeparated texts ++ "\x7d"
  | .mapping entries => "\x7b" ++ commaSeparated (entryLiterals entries) ++ "\x7d"
  | .range start stop step =>
    let ends := [toString start, toString stop]
    "range(" ++ commaSeparated (if step = 1 then ends else ends ++ [toString step]) ++ ")"
  | .bounds low high =>
    "CompareFilter(value1=" ++ literal low ++ ", value2=" ++ literal high ++ ")"
  | .decimal value => "Decimal('" ++ value.toText ++ "')"
  | .moment value => "datetime.datetime(" ++ commaSeparated (value.numbers.map toString) ++ ")"
  | .condition value => "<ConditionKind." ++ value.name ++ ": '" ++ value.name ++ "'>"
  | .direction value => "<SortDirection." ++ value.name ++ ": '" ++ value.name ++ "'>"
  | .thing _ => "Thing()"
  | .record model _ => model ++ "()"

def literals : List Value → List String
  | [] => []
  | item :: rest => literal item :: literals rest

def entryLiterals : List (Value × Value) → List String
  | [] => []
  | (key, value) :: rest => (literal key ++ ": " ++ literal value) :: entryLiterals rest

end

def plain : Value → String
  | .text value => value
  | .decimal value => value.toText
  | .moment value => value.toPlain
  | .condition value => "ConditionKind." ++ value.name
  | .direction value => "SortDirection." ++ value.name
  | value => value.literal

end Value
end RecordStore
