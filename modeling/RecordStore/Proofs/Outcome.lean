import Mathlib.Data.List.Forall2
import RecordStore.Action

/-!
Chains of outcomes: how steps that may fail are taken apart and put together.
-/

namespace RecordStore

section Outcome

variable {ε α β : Type}

@[simp] theorem ok_bind (value : α) (next : α → Except ε β) :
    (Except.ok value >>= next) = next value := rfl

@[simp] theorem error_bind (failure : ε) (next : α → Except ε β) :
    ((Except.error failure : Except ε α) >>= next) = .error failure := rfl

theorem bind_eq_ok_iff {outcome : Except ε α} {next : α → Except ε β} {result : β} :
    (outcome >>= next) = .ok result ↔ ∃ value, outcome = .ok value ∧ next value = .ok result := by
  cases outcome with
  | error failure => simp
  | ok value => simp

theorem eq_ok_of_toOption {outcome : Except ε α} {value : α} (returns : outcome.toOption = some value) :
    outcome = .ok value := by
  cases outcome with
  | error failure => cases returns
  | ok other => rw [Option.some.inj returns]

theorem map_eq_ok_iff {outcome : Except ε α} {change : α → β} {result : β} :
    outcome.map change = .ok result ↔ ∃ value, outcome = .ok value ∧ change value = result := by
  cases outcome with
  | error failure => simp [Except.map]
  | ok value => simp [Except.map]

theorem cases_of_map_eq {left right : Except ε α} {change : α → β}
    (same : left.map change = right.map change) :
    (∃ failure, left = .error failure ∧ right = .error failure) ∨
      ∃ value other, left = .ok value ∧ right = .ok other ∧ change value = change other := by
  cases left with
  | error failure =>
      cases right with
      | error other =>
          cases same
          exact .inl ⟨failure, rfl, rfl⟩
      | ok other => cases same
  | ok value =>
      cases right with
      | error other => cases same
      | ok other => exact .inr ⟨value, other, rfl, rfl, Except.ok.inj same⟩

theorem bind_eq_error_iff {outcome : Except ε α} {next : α → Except ε β} {failure : ε} :
    (outcome >>= next) = .error failure ↔
      outcome = .error failure ∨ ∃ value, outcome = .ok value ∧ next value = .error failure := by
  cases outcome with
  | error other => simp
  | ok value => simp

theorem mapM_eq_ok_iff {step : α → Except ε β} {items : List α} {results : List β} :
    items.mapM step = .ok results ↔
      List.Forall₂ (fun item result => step item = .ok result) items results := by
  induction items generalizing results with
  | nil =>
      rw [List.forall₂_nil_left_iff, List.mapM_nil]
      exact ⟨fun same => (Except.ok.inj same).symm, fun same => congrArg Except.ok same.symm⟩
  | cons item items ih =>
      simp only [List.mapM_cons, bind_eq_ok_iff, ih, List.forall₂_cons_left_iff]
      constructor
      · rintro ⟨result, first, others, rest, paired⟩
        exact ⟨result, others, first, rest, (Except.ok.inj paired).symm⟩
      · rintro ⟨result, others, first, rest, rfl⟩
        exact ⟨result, first, others, rest, rfl⟩

theorem mapM_eq_error_iff {step : α → Except ε β} {items : List α} {failure : ε} :
    items.mapM step = .error failure ↔ ∃ before item after results,
      items = before ++ item :: after ∧ before.mapM step = .ok results ∧
        step item = .error failure := by
  induction items with
  | nil => simp [pure, Except.pure]
  | cons first rest ih =>
      rw [List.mapM_cons, bind_eq_error_iff]
      constructor
      · rintro (refused | ⟨result, accepted, later⟩)
        · exact ⟨[], first, rest, [], rfl, rfl, refused⟩
        · rcases bind_eq_error_iff.mp later with refused | ⟨_, _, impossible⟩
          · obtain ⟨before, item, after, results, rfl, passed, refused⟩ := ih.mp refused
            refine ⟨first :: before, item, after, result :: results, rfl, ?_, refused⟩
            rw [List.mapM_cons, accepted, ok_bind, passed, ok_bind]
            rfl
          · cases impossible
      · rintro ⟨before, item, after, results, split, passed, refused⟩
        cases before with
        | nil =>
            obtain ⟨rfl, rfl⟩ := List.cons.inj split
            exact .inl refused
        | cons _ before =>
            obtain ⟨rfl, rfl⟩ := List.cons.inj split
            rw [List.mapM_cons, bind_eq_ok_iff] at passed
            obtain ⟨result, accepted, passed⟩ := passed
            obtain ⟨later, passed, _⟩ := bind_eq_ok_iff.mp passed
            refine .inr ⟨result, accepted, ?_⟩
            rw [ih.mpr ⟨before, item, after, later, rfl, passed, refused⟩, error_bind]

theorem exists_mem_of_forall₂ {Holds : α → β → Prop} {items : List α} {results : List β}
    (related : List.Forall₂ Holds items results) {item : α} (found : item ∈ items) :
    ∃ result ∈ results, Holds item result := by
  induction related with
  | nil => cases found
  | cons holds _ ih =>
      rcases List.mem_cons.mp found with rfl | later
      · exact ⟨_, List.mem_cons_self, holds⟩
      · obtain ⟨result, listed, holds⟩ := ih later
        exact ⟨result, List.mem_cons_of_mem _ listed, holds⟩

theorem foldlM_relates {Relates : β → β → Prop} (refl : ∀ state, Relates state state)
    (trans : ∀ {first second third}, Relates first second → Relates second third →
      Relates first third)
    {step : β → α → Except ε β} (steps : ∀ state item after, step state item = .ok after →
      Relates state after)
    {items : List α} {initial last : β} (ran : items.foldlM step initial = .ok last) :
    Relates initial last := by
  induction items generalizing initial with
  | nil =>
      cases ran
      exact refl _
  | cons item items ih =>
      rw [List.foldlM_cons] at ran
      obtain ⟨next, first, rest⟩ := bind_eq_ok_iff.mp ran
      exact trans (steps initial item next first) (ih rest)

theorem foldlM_congr {Holds : β → Prop} {step other : β → α → Except ε β}
    (same : ∀ state item, Holds state → step state item = other state item)
    (keeps : ∀ state item after, Holds state → other state item = .ok after → Holds after)
    {items : List α} {initial : β} (holds : Holds initial) :
    items.foldlM step initial = items.foldlM other initial := by
  induction items generalizing initial with
  | nil => rfl
  | cons item items ih =>
      rw [List.foldlM_cons, List.foldlM_cons, same initial item holds]
      cases passed : other initial item with
      | error failure => rfl
      | ok after => exact ih (keeps initial item after holds passed)

theorem foldlM_checked_ok_iff {passes : α → Prop} [DecidablePred passes] {next : β → α → β}
    {refusal : α → ε} {items : List α} {initial last : β} :
    items.foldlM (fun state item => if passes item then Except.ok (next state item)
        else .error (refusal item)) initial = .ok last ↔
      (∀ item ∈ items, passes item) ∧ items.foldl next initial = last := by
  induction items generalizing initial with
  | nil => simp [pure, Except.pure]
  | cons item items ih =>
      rw [List.foldlM_cons, List.forall_mem_cons, List.foldl_cons]
      by_cases passed : passes item
      · rw [if_pos passed, ok_bind, ih, and_iff_right passed]
      · rw [if_neg passed, error_bind]
        exact ⟨nofun, fun accepted => absurd accepted.1.1 passed⟩

end Outcome

namespace Action

variable {State α β : Type} {action : Action State α} {state after : State}

theorem run_bind_ok {value : α} (ran : action.run state = (.ok value, after))
    (next : α → Action State β) : (action >>= next).run state = (next value).run after := by
  rw [run_bind, ran]

theorem run_bind_error {failure : Failure} (ran : action.run state = (.error failure, after))
    (next : α → Action State β) : (action >>= next).run state = (.error failure, after) := by
  rw [run_bind, ran]

theorem run_bind_congr {other : Action State α} {state' : State}
    (same : action.run state = other.run state') (next : α → Action State β) :
    (action >>= next).run state = (other >>= next).run state' := by
  rw [run_bind, run_bind, same]

theorem run_bind_ok_iff {next : α → Action State β} {result : β} :
    (action >>= next).run state = (.ok result, after) ↔
      ∃ value middle, action.run state = (.ok value, middle) ∧
        (next value).run middle = (.ok result, after) := by
  rw [run_bind]
  cases action.run state with
  | mk outcome middle =>
      cases outcome with
      | error failure => simp
      | ok value => simp [and_assoc]

theorem run_pure_ok_iff {value result : α} :
    (pure value : Action State α).run state = (.ok result, after) ↔ value = result ∧ state = after := by
  rw [run_pure, Prod.mk.injEq, Except.ok.injEq]

theorem andThen_done (action : Action State α) : action.andThen done = action := by
  funext state
  simp only [andThen, done]
  split <;> rename_i ran <;> exact ran.symm

theorem andThen_assoc {γ : Type} (first : Action State α) (second : α → Action State β)
    (third : β → Action State γ) :
    (first.andThen second).andThen third = first.andThen fun value => (second value).andThen third := by
  funext state
  simp only [andThen]
  cases first state with
  | mk outcome after => cases outcome <;> rfl

instance : LawfulMonad (Action State) :=
  LawfulMonad.mk' (Action State) andThen_done (fun _ _ => rfl) andThen_assoc

@[simp] theorem run_get (state : State) : (get : Action State State).run state = (.ok state, state) :=
  rfl

@[simp] theorem run_modify (change : State → State) (state : State) :
    (modify change).run state = (.ok (), change state) := rfl

@[simp] theorem run_ofOutcome (outcome : Except Failure α) (state : State) :
    (ofOutcome outcome).run state = (outcome, state) := rfl

theorem run_ofOutcome_ok_iff {outcome : Except Failure α} {value : α} :
    (ofOutcome outcome).run state = (.ok value, after) ↔ outcome = .ok value ∧ state = after := by
  simp

theorem run_ofStore_ok_iff {outcome : Except StoreFailure α} {value : α} :
    (ofStore outcome).run state = (.ok value, after) ↔ outcome = .ok value ∧ state = after := by
  rw [ofStore, run_ofOutcome_ok_iff]
  cases outcome with
  | error failure => simp [Except.mapError]
  | ok result => simp [Except.mapError]

end Action
end RecordStore
