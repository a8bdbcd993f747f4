import RecordStore.Model.Samples
import RecordStore.Proofs.Outcome
import RecordStore.Sql.Registries

/-!
Registrations. A registry is what was registered with it, whatever happens to others: a clause is compiled
by the operator that was registered last for its condition, and by no other one.
-/

namespace RecordStore

def lastFor? (key : ConditionKey) (registrations : List (ConditionKey × Operator)) :
    Option Operator :=
  (registrations.reverse.find? fun entry => entry.1.name == key.name).map Prod.snd

/-- What a clause is compiled to after registrations: its column is looked up first, and a condition that
nothing was registered for is refused. -/
def compileBy (registrations : List (ConditionKey × Operator)) (model : Model) (clause : Clause) :
    Except Failure Predicate := do
  let column ← model.resolve clause.column
  match lastFor? clause.key registrations with
  | some operator => operator.apply column clause.operands
  | none => .error (.unsupportedCondition clause.key.label)

theorem lastFor?_append (key : ConditionKey) (early late : List (ConditionKey × Operator)) :
    lastFor? key (early ++ late) = (lastFor? key late).or (lastFor? key early) := by
  rw [lastFor?, List.reverse_append, List.find?_append, Option.map_or]
  rfl

theorem compileBy_congr {registrations others : List (ConditionKey × Operator)} {clause : Clause}
    (same : lastFor? clause.key registrations = lastFor? clause.key others) (model : Model) :
    compileBy registrations model clause = compileBy others model clause := by
  rw [compileBy, compileBy, same]

namespace Registry

theorem get?_registerAll (registry : Registry) (registrations : List (ConditionKey × Operator))
    (key : ConditionKey) : (registry.registerAll registrations).get? key =
      (lastFor? key registrations).or (registry.get? key) := by
  induction registrations generalizing registry with
  | nil => rfl
  | cons first rest ih =>
      obtain ⟨held, operator⟩ := first
      have continued : (registry.registerAll ((held, operator) :: rest)).get? key =
          (lastFor? key rest).or ((registry.register held operator).get? key) := ih _
      rw [continued, ← List.singleton_append, lastFor?_append, Option.or_assoc]
      congr 1
      by_cases same : key = held
      · rw [same, get?_register_self]
        simp [lastFor?]
      · have skip : (held.name == key.name) = false :=
          beq_false_of_ne fun named => same (ConditionKey.name_inj.mp named).symm
        rw [get?_register_of_ne _ _ same]
        simp [lastFor?, skip]

theorem registerAll_append (registry : Registry) (early late : List (ConditionKey × Operator)) :
    registry.registerAll (early ++ late) = (registry.registerAll early).registerAll late :=
  List.foldl_append

theorem compileClause_registerAll (registrations : List (ConditionKey × Operator)) (model : Model)
    (clause : Clause) : (empty.registerAll registrations).compileClause model clause =
      compileBy registrations model clause := by
  have found : (empty.registerAll registrations).get? clause.key =
      lastFor? clause.key registrations := by
    rw [get?_registerAll]
    exact Option.or_none
  rw [compileClause, compileBy]
  cases model.resolve clause.column with
  | error failure => rfl
  | ok column =>
      rw [ok_bind, ok_bind]
      cases registered : lastFor? clause.key registrations <;> simp only [apply, found, registered]

end Registry

inductive RegistryCall where
  | make (start : Registry)
  | register (id : RegistryId) (key : ConditionKey) (operator : Operator)

namespace RegistryCall

def perform (registries : Registries) : RegistryCall → Registries
  | make start => (registries.make start).2
  | register id key operator => registries.register id key operator

def registration? (id : RegistryId) : RegistryCall → Option (ConditionKey × Operator)
  | make _ => none
  | register other key operator => if other = id then some (key, operator) else none

end RegistryCall

def registrationsWith (id : RegistryId) (calls : List RegistryCall) :
    List (ConditionKey × Operator) :=
  calls.filterMap (RegistryCall.registration? id)

namespace Registries

variable {registries : Registries} {id : RegistryId}

theorem knows_make (registries : Registries) (start : Registry) :
    (registries.make start).2.Knows (registries.make start).1 := by
  simp [make, Knows]

theorem Knows.perform (known : registries.Knows id) (call : RegistryCall) :
    (call.perform registries).Knows id := by
  cases id with
  | shared => trivial
  | made number =>
      have bound : number < registries.made.length := known
      cases call with
      | make start => simpa [RegistryCall.perform, make, Knows] using Nat.lt_succ_of_lt bound
      | register other key operator =>
          cases other with
          | shared => exact bound
          | made another => simpa [RegistryCall.perform, register, Knows] using bound

theorem get_perform (known : registries.Knows id) (call : RegistryCall) :
    (call.perform registries).get id =
      (registries.get id).registerAll (call.registration? id).toList := by
  cases call with
  | make start => exact get_make_known known start
  | register other key operator =>
      by_cases same : other = id
      · subst same
        rw [RegistryCall.registration?, if_pos rfl]
        exact get_register_self known key operator
      · rw [RegistryCall.registration?, if_neg same]
        exact get_register_of_ne registries (Ne.symm same) key operator

theorem get_run (known : registries.Knows id) (calls : List RegistryCall) :
    (calls.foldl RegistryCall.perform registries).get id =
      (registries.get id).registerAll (registrationsWith id calls) := by
  induction calls generalizing registries with
  | nil => rfl
  | cons call calls ih =>
      have split : registrationsWith id (call :: calls) =
          (call.registration? id).toList ++ registrationsWith id calls := by
        rw [registrationsWith, List.filterMap_cons]
        cases call.registration? id <;> rfl
      rw [List.foldl_cons, ih (known.perform call), get_perform known, split,
        Registry.registerAll_append]

theorem chosen_run (registries : Registries) (start : List (ConditionKey × Operator))
    (calls : List RegistryCall) :
    let (id, made) := registries.make (Registry.empty.registerAll start)
    (calls.foldl RegistryCall.perform made).chosen (some id) =
      Registry.empty.registerAll (start ++ registrationsWith id calls) := by
  have ran := get_run (knows_make registries (Registry.empty.registerAll start)) calls
  rw [get_make, ← Registry.registerAll_append] at ran
  exact ran

theorem shared_run (registries : Registries) (start : Registry) {calls : List RegistryCall}
    (apart : registrationsWith .shared calls = []) :
    (calls.foldl RegistryCall.perform (registries.make start).2).get .shared = registries.shared := by
  have known : (registries.make start).2.Knows .shared := trivial
  rw [get_run known, apart]
  rfl

/-- After calls of any kind, a registry that was made and started with operators compiles each clause by
the operator registered last for its condition, those of its start included. It refuses a clause whose
condition has none, and never asks the shared registry. If it started as the standard one, a clause of a
condition that nothing else was registered for is compiled as by the standard one. What clauses are compiled
to where no registry is given is changed by registrations with the shared one only. -/
theorem clauses_go_by_the_last_registration (registries : Registries)
    (start : List (ConditionKey × Operator)) (calls : List RegistryCall) :
    let (id, made) := registries.make (Registry.empty.registerAll start)
    let after := calls.foldl RegistryCall.perform made
    let own := registrationsWith id calls
    (∀ model clauses, after.compileClauses (some id) model clauses =
      clauses.mapM (compileBy (start ++ own) model)) ∧
    (∀ model before clause rest predicates column,
      after.compileClauses (some id) model before = .ok predicates →
      model.resolve clause.column = .ok column → lastFor? clause.key (start ++ own) = none →
      after.compileClauses (some id) model (before ++ clause :: rest) =
        .error (.unsupportedCondition clause.key.label)) ∧
    (start = Registry.standardOperators → ∀ model clause, lastFor? clause.key own = none →
      (after.chosen (some id)).compileClause model clause =
        Registry.standard.compileClause model clause) ∧
    (registrationsWith .shared calls = [] → ∀ model clauses,
      after.compileClauses none model clauses = registries.compileClauses none model clauses) := by
  have held := chosen_run registries start calls
  dsimp only at held ⊢
  set id := (registries.make (Registry.empty.registerAll start)).1
  set made := (registries.make (Registry.empty.registerAll start)).2
  set own := registrationsWith id calls
  have each (model : Model) (clause : Clause) :
      ((calls.foldl RegistryCall.perform made).chosen (some id)).compileClause model clause =
        compileBy (start ++ own) model clause := by
    rw [held, Registry.compileClause_registerAll]
  have all (model : Model) (clauses : List Clause) :
      (calls.foldl RegistryCall.perform made).compileClauses (some id) model clauses =
        clauses.mapM (compileBy (start ++ own) model) :=
    congrArg (clauses.mapM ·) (funext (each model))
  refine ⟨all, ?_, ?_, ?_⟩
  · intro model before clause rest predicates column passed resolved missing
    rw [all] at passed ⊢
    refine mapM_eq_error_iff.mpr ⟨before, clause, rest, predicates, rfl, passed, ?_⟩
    rw [compileBy, resolved, ok_bind, missing]
  · rintro rfl model clause unregistered
    have same : lastFor? clause.key (Registry.standardOperators ++ own) =
        lastFor? clause.key Registry.standardOperators := by
      rw [lastFor?_append, unregistered, Option.none_or]
    rw [each, compileBy_congr same, ← Registry.compileClause_registerAll]
    rfl
  · intro apart model clauses
    exact congrArg (Registry.compileClauses · model clauses) (shared_run registries _ apart)

def likeness : List RegistryCall := [
  .make .empty, .register (.made 0) (.known .like) .plainLike,
  .register (.made 1) (.known .equality) .inequality, .register (.made 0) (.ofName "LIKE") .atLeastLast]

/-- Equality is left as it was, though the second registry has another operator for it. -/
theorem only_likeness_is_compiled_anew :
    let after := likeness.foldl RegistryCall.perform (initial.make .standard).2
    (∀ model clauses, after.compileClauses (some (.made 0)) model clauses =
      clauses.mapM (compileBy (Registry.standardOperators ++
        registrationsWith (.made 0) likeness) model)) ∧
    (lastFor? (.known .equality) (registrationsWith (.made 0) likeness) = none ∧
      (after.chosen (some (.made 0))).compileClause Samples.person
          ⟨"name", .known .equality, [.text "Ada"]⟩ =
        Registry.standard.compileClause Samples.person ⟨"name", .known .equality, [.text "Ada"]⟩) ∧
    (registrationsWith .shared likeness = [] ∧ ∀ model clauses,
      after.compileClauses none model clauses = initial.compileClauses none model clauses) := by
  have unregistered : lastFor? (.known .equality) (registrationsWith (.made 0) likeness) = none := rfl
  have apart : registrationsWith .shared likeness = [] := rfl
  obtain ⟨all, _, kept, shared⟩ :=
    clauses_go_by_the_last_registration initial Registry.standardOperators likeness
  exact ⟨all, ⟨unregistered, kept rfl Samples.person _ unregistered⟩, apart, shared apart⟩

end Registries
end RecordStore
