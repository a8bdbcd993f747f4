import RecordStore.Filter.Clause
import RecordStore.Filter.Pattern
import RecordStore.Filter.Spec
import RecordStore.Text.Case

/-!
From filters to clauses. Every given field of a filter yields at most one clause; a value that
does not suit its field's condition is refused.
-/

namespace RecordStore
namespace Field

def refuse {α : Type} (field : Field) (expected : String) (value : Value) : Except Failure α :=
  .error (.filterType field.name field.condition.name expected value)

def clause (field : Field) (operands : List Value) : Clause :=
  ⟨field.target, .known field.condition, operands⟩

/-- The clause of a field whose value is given. An open interval and an empty list restrict
nothing. -/
def compile (field : Field) (value : Value) : Except Failure (Option Clause) :=
  match field.condition with
  | .like =>
    match value.asText? with
    | none => field.refuse "str" value
    | some text => .ok (some (field.clause [.text (Pattern.containing (Text.lower text))]))
  | .between =>
    match value with
    | .bounds low high => .ok (if low.isAbsent then none else some (field.clause [low, high]))
    | _ => field.refuse "CompareFilter" value
  | .or =>
    match value.items? with
    | none => field.refuse "a sequence of str" value
    | some items =>
      match items.find? fun item => !item.isText with
      | some item => field.refuse "a sequence of str" item
      | none => .ok (if items.isEmpty then none else some (field.clause items))
  | .equality =>
    if value.isScalar then .ok (some (field.clause [value])) else field.refuse "a scalar" value

end Field

def compileReadings : List (Field × Except Failure Value) → Except Failure (List Clause)
  | [] => .ok []
  | (field, reading) :: rest => do
    let value ← reading
    if value.isAbsent then compileReadings rest
    else
      let clause ← field.compile value
      let clauses ← compileReadings rest
      pure (clause.toList ++ clauses)

def compileFilter (catalogue : Catalogue) (filter : Option Filter) : Except Failure (List Clause) :=
  match filter with
  | none => .ok []
  | some filter => do
    catalogue.checkCallable filter Catalogue.itemsName
    compileReadings (catalogue.readings filter)

end RecordStore
