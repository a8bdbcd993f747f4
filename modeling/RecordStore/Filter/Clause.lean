import RecordStore.Value.Basic

/-!
Clauses: one restriction of one column each, with its operands.
-/

namespace RecordStore

/-- What a registry of operators is asked for: a known condition, or a name of the caller's that is
none of theirs. -/
inductive ConditionKey where
  | known (condition : Condition)
  | named (name : String) (unknown : Condition.ofName? name = none)
  deriving DecidableEq, Repr, Inhabited

namespace ConditionKey

def ofName (name : String) : ConditionKey :=
  match unknown : Condition.ofName? name with
  | some condition => .known condition
  | none => .named name unknown

def name : ConditionKey → String
  | .known condition => condition.name
  | .named name _ => name

def label : ConditionKey → String
  | .known condition => "ConditionKind." ++ condition.name
  | .named name _ => name

theorem name_inj {key other : ConditionKey} : key.name = other.name ↔ key = other := by
  refine ⟨fun same => ?_, congrArg name⟩
  cases key with
  | known condition =>
    cases other with
    | known another =>
      have read := congrArg Condition.ofName? same
      simp only [name, Condition.ofName?_name] at read
      rw [Option.some.inj read]
    | named text unknown =>
      simp only [name] at same
      rw [← same, Condition.ofName?_name] at unknown
      cases unknown
  | named text unknown =>
    cases other with
    | known another =>
      simp only [name] at same
      rw [same, Condition.ofName?_name] at unknown
      cases unknown
    | named another => simpa [name] using same

end ConditionKey

structure Clause where
  column : String
  key : ConditionKey
  operands : List Value
  deriving Repr

end RecordStore
