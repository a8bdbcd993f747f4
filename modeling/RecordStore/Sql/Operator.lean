import RecordStore.Filter.Clause
import RecordStore.Sql.Predicate

/-!
Operators, which make a predicate of a column and operands, and registries, which hold one
operator for each condition. A caller can register operators of its own.
-/

namespace RecordStore

structure Operator where
  name : String
  apply : Attribute → List Value → Except Failure Predicate

namespace Operator

def operand (operands : List Value) (index : Nat) : Except Failure Value :=
  match operands[index]? with
  | some value => .ok value
  | none => .error .missingOperand

/-- A value that is compared with a column. A record of a model cannot be. -/
def compared (value : Value) : Except Failure Value :=
  if value.isRecord then .error .recordOperand else .ok value

theorem compared_eq_ok_iff {value result : Value} :
    compared value = .ok result ↔ value.isRecord = false ∧ result = value := by
  unfold compared
  cases value.isRecord <;> simp [eq_comm]

theorem mapM_compared (values : List Value) : values.mapM compared =
    if values.any Value.isRecord then .error .recordOperand else .ok values := by
  induction values with
  | nil => rfl
  | cons value values ih =>
      rw [List.mapM_cons, ih, List.any_cons, compared]
      cases value.isRecord <;> cases values.any Value.isRecord <;> rfl

def equality : Operator where
  name := "EqualityOperator"
  apply column operands := do
    let value ← operand operands 0
    pure (.ofTest (.equals column (← compared value)))

def like : Operator where
  name := "LikeOperator"
  apply column operands := do
    let value ← operand operands 0
    pure (.ofTest (← Test.matching column true true (← compared value)))

def between : Operator where
  name := "BetweenOperator"
  apply column operands := do
    let low ← operand operands 0
    let high ← operand operands 1
    pure (.ofTest (.between column (← compared low) (← compared high)))

def orList : Operator where
  name := "OrListOperator"
  apply column operands := do
    let values ← operands.mapM compared
    pure ⟨values.map (Test.equals column)⟩

def customName : String := "Custom"

def plainLike : Operator where
  name := customName
  apply column operands := do
    let value ← operand operands 0
    pure (.ofTest (← Test.matching column false false (← compared value)))

def inequality : Operator where
  name := customName
  apply column operands := do
    let value ← operand operands 0
    pure (.ofTest (.differs column (← compared value)))

def atLeastLast : Operator where
  name := customName
  apply column operands := do
    let value ← operand operands (operands.length - 1)
    pure (.ofTest (← Test.atLeast column (← compared value)))

end Operator

structure Registry where
  entries : List (ConditionKey × Operator)

namespace Registry

def empty : Registry := ⟨[]⟩

def get? (registry : Registry) (key : ConditionKey) : Option Operator :=
  registry.entries.lookup key

/-- Registers an operator; the last one registered for a condition counts. -/
def register (key : ConditionKey) (operator : Operator) (registry : Registry) : Registry :=
  ⟨(key, operator) :: registry.entries.filter fun entry => entry.1 != key⟩

def registerAll (operators : List (ConditionKey × Operator)) (registry : Registry) : Registry :=
  operators.foldl (fun registry entry => registry.register entry.1 entry.2) registry

def keys (registry : Registry) : List ConditionKey := registry.entries.map Prod.fst

def standardOperators : List (ConditionKey × Operator) := [
  (.known .equality, .equality), (.known .like, .like), (.known .between, .between),
  (.known .or, .orList)]

def standard : Registry := empty.registerAll standardOperators

def apply (registry : Registry) (key : ConditionKey) (column : Attribute)
    (operands : List Value) : Except Failure Predicate :=
  match registry.get? key with
  | some operator => operator.apply column operands
  | none => .error (.unsupportedCondition key.label)

/-- The predicate of a clause on a model: its column is looked up before its operator. -/
def compileClause (registry : Registry) (model : Model) (clause : Clause) :
    Except Failure Predicate := do
  let column ← model.resolve clause.column
  registry.apply clause.key column clause.operands

def compileClauses (registry : Registry) (model : Model) (clauses : List Clause) :
    Except Failure (List Predicate) :=
  clauses.mapM (registry.compileClause model)

section Standard

variable (column : Attribute) (value high : Value) (rest : List Value)

theorem apply_equality : standard.apply (.known .equality) column (value :: rest) =
    if value.isRecord then .error .recordOperand else .ok (.ofTest (.equals column value)) := by
  show (do pure (.ofTest (.equals column (← Operator.compared value))) : Except Failure Predicate) = _
  rw [Operator.compared]
  cases value.isRecord <;> rfl

theorem apply_like : standard.apply (.known .like) column (value :: rest) =
    if value.isRecord then .error .recordOperand
    else (Test.matching column true true value).map .ofTest := by
  show (do pure (.ofTest (← Test.matching column true true (← Operator.compared value))) :
    Except Failure Predicate) = _
  rw [Operator.compared]
  cases value.isRecord
  · show (do pure (.ofTest (← Test.matching column true true value)) : Except Failure Predicate) = _
    cases Test.matching column true true value <;> rfl
  · rfl

theorem apply_between : standard.apply (.known .between) column (value :: high :: rest) =
    if value.isRecord || high.isRecord then .error .recordOperand
    else .ok (.ofTest (.between column value high)) := by
  show (do pure (.ofTest (.between column (← Operator.compared value) (← Operator.compared high))) :
    Except Failure Predicate) = _
  rw [Operator.compared, Operator.compared]
  cases value.isRecord <;> cases high.isRecord <;> rfl

theorem apply_or (values : List Value) : standard.apply (.known .or) column values =
    if values.any Value.isRecord then .error .recordOperand
    else .ok ⟨values.map (Test.equals column)⟩ := by
  show (do
    let values ← values.mapM Operator.compared
    pure ⟨values.map (Test.equals column)⟩ : Except Failure Predicate) = _
  rw [Operator.mapM_compared]
  cases values.any Value.isRecord <;> rfl

end Standard

inductive Makes (column : Attribute) : ConditionKey → List Value → Predicate → Prop
  | equality (value : Value) (rest : List Value) :
      Makes column (.known .equality) (value :: rest) (.ofTest (.equals column value))
  | like (value : Value) (rest : List Value) (bound : Test.isConstant value = false) :
      Makes column (.known .like) (value :: rest) (.ofTest (.like column true true value))
  | between (low high : Value) (rest : List Value) :
      Makes column (.known .between) (low :: high :: rest) (.ofTest (.between column low high))
  | or (values : List Value) : Makes column (.known .or) values ⟨values.map (Test.equals column)⟩

theorem makes_of_apply {column : Attribute} {key : ConditionKey} {operands : List Value}
    {predicate : Predicate} (applied : standard.apply key column operands = .ok predicate) :
    Makes column key operands predicate := by
  rcases key with (_ | _ | _ | _) | name
  · rcases operands with _ | ⟨value, rest⟩
    · cases applied
    · rw [apply_equality] at applied
      split at applied <;> cases applied
      exact .equality value rest
  · rcases operands with _ | ⟨value, rest⟩
    · cases applied
    · rw [apply_like, Test.matching] at applied
      cases constant : Test.isConstant value with
      | true =>
          rw [constant] at applied
          split at applied <;> cases applied
      | false =>
          rw [constant] at applied
          split at applied <;> cases applied
          exact .like value rest constant
  · rcases operands with _ | ⟨low, _ | ⟨high, rest⟩⟩
    · cases applied
    · cases applied
    · rw [apply_between] at applied
      split at applied <;> cases applied
      exact .between low high rest
  · rw [apply_or] at applied
    split at applied <;> cases applied
    exact .or operands
  · cases applied

theorem get?_register_self (registry : Registry) (key : ConditionKey) (operator : Operator) :
    (registry.register key operator).get? key = some operator := by
  simp [get?, register]

theorem get?_register_of_ne (registry : Registry) {key other : ConditionKey} (operator : Operator)
    (distinct : other ≠ key) :
    (registry.register key operator).get? other = registry.get? other := by
  have skip : (other == key) = false := by simpa using distinct
  simp only [get?, register, List.lookup_cons, skip]
  induction registry.entries with
  | nil => rfl
  | cons entry rest ih =>
    obtain ⟨held, kept⟩ := entry
    by_cases same : held = key
    · simp [List.filter, same, skip, List.lookup_cons, ih]
    · have keep : (held != key) = true := by simpa using same
      simp only [List.filter, keep, List.lookup_cons, ih]

end Registry
end RecordStore
