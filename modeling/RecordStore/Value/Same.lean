import RecordStore.Value.Basic

/-!
Equality of dynamic values. Numbers of all types are compared by their exact value, so `1`, `1.0`
and `true` are the same; condition kinds and directions are the same as their texts; not-a-number
and objects without a class of their own are the same as nothing.
-/

namespace RecordStore
namespace Value

def sameScalar (left right : Value) : Bool :=
  match left.number?, right.number? with
  | some number, some other => number.equals other
  | none, none =>
    match left.asText?, right.asText? with
    | some word, some other => word == other
    | _, _ => false
  | _, _ => false

mutual

def same : Value → Value → Bool
  | .null, other => match other with
    | .null => true
    | _ => false
  | .bytes value, other => match other with
    | .bytes other => value == other
    | .buffer other => value == other
    | _ => false
  | .buffer value, other => match other with
    | .bytes other => value == other
    | .buffer other => value == other
    | _ => false
  | .list items, other => match other with
    | .list others => sameAll items others
    | _ => false
  | .tuple items, other => match other with
    | .tuple others => sameAll items others
    | _ => false
  | .set items, other => match other with
    | .set others => items.length == others.length && includedAll items others
    | _ => false
  | .mapping entries, other => match other with
    | .mapping others => entries.length == others.length && sameEntries entries others
    | _ => false
  | .range start stop step, other => match other with
    | .range start' stop' step' =>
      let length := rangeLength start stop step
      length == rangeLength start' stop' step' &&
        (length == 0 || start == start' && (length == 1 || step == step'))
    | _ => false
  | .bounds low high, other => match other with
    | .bounds low' high' => same low low' && same high high'
    | _ => false
  | .moment value, other => match other with
    | .moment other => value == other
    | _ => false
  | .thing _, _ => false
  | .record .., _ => false
  | .boolean value, other => sameScalar (.boolean value) other
  | .integer value, other => sameScalar (.integer value) other
  | .float value, other => sameScalar (.float value) other
  | .decimal value, other => sameScalar (.decimal value) other
  | .text value, other => sameScalar (.text value) other
  | .condition value, other => sameScalar (.condition value) other
  | .direction value, other => sameScalar (.direction value) other

def sameAll : List Value → List Value → Bool
  | [], others => others.isEmpty
  | item :: rest, others => match others with
    | other :: others => same item other && sameAll rest others
    | [] => false

def includedAll : List Value → List Value → Bool
  | [], _ => true
  | item :: rest, others => others.any (same item) && includedAll rest others

def sameEntries : List (Value × Value) → List (Value × Value) → Bool
  | [], _ => true
  | (key, value) :: rest, others =>
    others.any (fun other => same key other.1 && same value other.2) && sameEntries rest others

end

def isZero (value : Value) : Bool := same value (.integer 0)

def distinct (items : List Value) : List Value :=
  items.foldl (fun kept item => if kept.any (same item) then kept else kept ++ [item]) []

def lastEntries (entries : List (Value × Value)) : List (Value × Value) :=
  entries.foldl (fun kept entry =>
    if kept.any (fun other => same entry.1 other.1) then
      kept.map fun other => if same entry.1 other.1 then (other.1, entry.2) else other
    else kept ++ [entry]) []

end Value
end RecordStore
