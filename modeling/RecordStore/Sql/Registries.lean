import RecordStore.Sql.Operator

/-!
The registries there are. One of them is shared: it is used wherever none is given. Callers make others
and register operators with them.
-/

namespace RecordStore

inductive RegistryId where
  | shared
  | made (number : Nat)
  deriving DecidableEq, Repr

structure Registries where
  shared : Registry
  made : List Registry

namespace Registries

def initial : Registries := ⟨.standard, []⟩

def get (registries : Registries) : RegistryId → Registry
  | .shared => registries.shared
  | .made number => (registries.made[number]?).getD .empty

def make (start : Registry) (registries : Registries) : RegistryId × Registries :=
  (.made registries.made.length, { registries with made := registries.made ++ [start] })

def register (id : RegistryId) (key : ConditionKey) (operator : Operator)
    (registries : Registries) : Registries :=
  match id with
  | .shared => { registries with shared := registries.shared.register key operator }
  | .made number =>
    { registries with made := registries.made.modify number (Registry.register key operator) }

def registerAll (id : RegistryId) (operators : List (ConditionKey × Operator))
    (registries : Registries) : Registries :=
  operators.foldl (fun registries entry => registries.register id entry.1 entry.2) registries

/-- The registry that is used: the one that is given, even if it is empty, or else the shared one. -/
def chosen (registries : Registries) (given : Option RegistryId) : Registry :=
  registries.get (given.getD .shared)

def compileClauses (registries : Registries) (given : Option RegistryId) (model : Model)
    (clauses : List Clause) : Except Failure (List Predicate) :=
  (registries.chosen given).compileClauses model clauses

def Knows (registries : Registries) : RegistryId → Prop
  | .shared => True
  | .made number => number < registries.made.length

theorem get_make (registries : Registries) (start : Registry) :
    (registries.make start).2.get (registries.make start).1 = start := by
  simp [make, get]

theorem get_make_known {registries : Registries} {id : RegistryId} (known : registries.Knows id)
    (start : Registry) : (registries.make start).2.get id = registries.get id := by
  cases id with
  | shared => rfl
  | made number =>
    have kept : (registries.made ++ [start])[number]? = registries.made[number]? :=
      List.getElem?_append_left known
    simp only [make, get, kept]

theorem get_register_self {registries : Registries} {id : RegistryId} (known : registries.Knows id)
    (key : ConditionKey) (operator : Operator) :
    (registries.register id key operator).get id = (registries.get id).register key operator := by
  cases id with
  | shared => rfl
  | made number =>
    have bound : number < registries.made.length := known
    simp [register, get, bound]

theorem get_register_of_ne (registries : Registries) {id other : RegistryId} (distinct : other ≠ id)
    (key : ConditionKey) (operator : Operator) :
    (registries.register id key operator).get other = registries.get other := by
  cases id with
  | shared =>
    cases other with
    | shared => exact absurd rfl distinct
    | made number => rfl
  | made number =>
    cases other with
    | shared => rfl
    | made another =>
      have apart : number ≠ another := fun same => distinct (congrArg RegistryId.made same.symm)
      simp only [register, get, List.getElem?_modify_ne _ _ apart]

end Registries
end RecordStore
