import RecordStore.Proofs.UnitProtocol

/-!
The failure that leaves a block. The calls by which a unit is left may be refused at several places, and
one failure is told: that of closing the session goes before that of the rollback, and both go before the
failure of the work or of the commit.
-/

namespace RecordStore

namespace SessionCall

variable {Session : Type}

def commitRefusal? : SessionCall Session → Option Failure
  | commit _ (.error failure) => some failure
  | _ => none

def rollbackRefusal? : SessionCall Session → Option Failure
  | ask _ (.error failure) => some failure
  | rollback _ (.error failure) => some failure
  | _ => none

def closeRefusal? : SessionCall Session → Option Failure
  | close _ (.error failure) => some failure
  | _ => none

end SessionCall

namespace UnitOfWork

variable {State Session α : Type}

def endOf (worked : Except Failure α) (left : List (SessionCall Session)) : Except Failure α :=
  match left.findSome? SessionCall.closeRefusal?, left.findSome? SessionCall.rollbackRefusal?,
      failureOf worked <|> left.findSome? SessionCall.commitRefusal? with
  | some failure, _, _ => .error (closeFailure failure)
  | none, some failure, _ => .error (rollbackFailure failure)
  | none, none, some failure => .error failure
  | none, none, none => worked

section Forms

variable {session : Session} {owns : Bool} {outcome told : Except Failure Unit}
  {ended : Option Failure} {calls : List (SessionCall Session)}

theorem RollsBack.refusals (rolls : RollsBack session outcome calls) :
    calls.findSome? SessionCall.rollbackRefusal? = failureOf outcome ∧
      calls.findSome? SessionCall.commitRefusal? = none ∧
      calls.findSome? SessionCall.closeRefusal? = none := by
  cases rolls with
  | refused failure => exact ⟨rfl, rfl, rfl⟩
  | idle => exact ⟨rfl, rfl, rfl⟩
  | acts outcome => cases outcome <;> exact ⟨rfl, rfl, rfl⟩

theorem Finishes.closeRefusal?_eq_none (finishes : Finishes session ended told calls) :
    calls.findSome? SessionCall.closeRefusal? = none := by
  cases finishes with
  | committed => rfl
  | interrupted passes => rfl
  | undone failure rolls => exact rolls.refusals.2.2
  | uncommitted ordinary rolls => exact rolls.refusals.2.2

theorem Finishes.end_eq {worked : Except Failure α}
    (finishes : Finishes session (failureOf worked) told calls) :
    (told >>= fun _ => worked) = endOf worked calls := by
  generalize same : failureOf worked = ended at finishes
  cases finishes with
  | committed =>
      rw [endOf, same]
      rfl
  | interrupted passes =>
      rw [endOf, same]
      rfl
  | @uncommitted failure outcome calls ordinary rolls =>
      obtain ⟨rollback, _, close⟩ := rolls.refusals
      have closing : (.commit session (.error failure) :: calls).findSome?
          SessionCall.closeRefusal? = none := close
      have rolling : (.commit session (.error failure) :: calls).findSome?
          SessionCall.rollbackRefusal? = failureOf outcome := rollback
      have committing : (.commit session (.error failure) :: calls).findSome?
          SessionCall.commitRefusal? = some failure := rfl
      rw [endOf, closing, rolling, committing, same]
      cases outcome <;> rfl
  | @undone failure outcome calls rolls =>
      obtain ⟨rollback, commit, close⟩ := rolls.refusals
      cases worked with
      | ok value => cases same
      | error cause =>
          rw [endOf, close, rollback, commit]
          cases outcome <;> rfl

/-- What is told of leaving, and the end of the work if nothing is, is the end of the block. -/
theorem Leaves.end_eq {worked : Except Failure α}
    (leaves : Leaves session (failureOf worked) owns told calls) :
    (told >>= fun _ => worked) = endOf worked calls := by
  cases leaves with
  | keeps finishes => exact finishes.end_eq
  | @closes told calls finishes closing =>
      have other {refusal? : SessionCall Session → Option Failure}
          (passes : refusal? (.close session closing) = none) :
          (calls ++ [SessionCall.close session closing]).findSome? refusal? =
            calls.findSome? refusal? := by
        simp [List.findSome?_append, passes]
      have closed : (calls ++ [SessionCall.close session closing]).findSome?
          SessionCall.closeRefusal? = failureOf closing := by
        rw [List.findSome?_append, finishes.closeRefusal?_eq_none]
        cases closing <;> rfl
      rw [endOf, closed, other rfl, other rfl]
      cases closing with
      | error failure => rfl
      | ok done =>
          have ends := finishes.end_eq
          rw [endOf, finishes.closeRefusal?_eq_none] at ends
          exact ends

theorem Leaves.closeRefusal?_eq_none (leaves : Leaves session ended false told calls) :
    calls.findSome? SessionCall.closeRefusal? = none := by
  cases leaves with
  | keeps finishes => exact finishes.closeRefusal?_eq_none

end Forms

section Blocks

variable {ops : SessionOps State Session} {source : Option Session} {unit : UnitOfWork Session}
  {hasFactory : Bool} {first : Watched State Session}
  {start entered : InUnit (Watched State Session) Session}

/-- How a block ends, whatever the calls to sessions return or raise. A refused closing is told before all
else, and a refused rollback before the rest, as a failure of the unit. If neither was refused, the failure
of the work leaves the block as it was raised, and that of the commit if the work returned. A given session
is never closed, so that only the rollback can hide these. -/
theorem refused_closing_is_told_before_all_else (notes : ops.NotesAlways)
    (made : ofSources source hasFactory = .ok unit) (reached : Reaches ops ⟨unit, first⟩ start)
    (enters : (enter ops.watched).run start = (.ok (), entered))
    (work : UnitOfWork Session → Action (Watched State Session) α) :
    let worked := (work entered.unit).run entered.outer
    let ended := (block ops.watched work).run start
    ∃ left, ended.2.outer.calls = worked.2.calls ++ left ∧ ended.1 = endOf worked.1 left ∧
      (left.findSome? SessionCall.rollbackRefusal? = none →
        left.findSome? SessionCall.closeRefusal? = none → ∀ failure,
          worked.1 = .error failure ∨ ((∃ value, worked.1 = .ok value) ∧
            left.findSome? SessionCall.commitRefusal? = some failure) →
          ended.1 = .error failure) ∧
      (source.isSome → left.findSome? SessionCall.closeRefusal? = none) := by
  intro worked ended
  obtain ⟨session, _, held, _⟩ := entering_of_ok (reached.serves notes (serves_ofSources made)) enters
  obtain ⟨_, state⟩ := entered
  obtain rfl := held
  obtain ⟨told, left, last, ran, leaves⟩ := run_block notes enters work
  have same : ended = _ := ran
  have ends : ended.1 = endOf worked.1 left := by
    rw [same]
    exact leaves.end_eq
  refine ⟨left, by rw [same], ends, fun rolled closed failure fails => ?_, fun given => ?_⟩
  · rw [ends, endOf, rolled, closed]
    rcases fails with failed | ⟨⟨value, returned⟩, refused⟩
    · rw [failed]
      rfl
    · rw [returned, refused]
      rfl
  · cases source with
    | none => cases given
    | some session => exact leaves.closeRefusal?_eq_none

def refusedTwice : InUnit (Watched Rehearsal.SessionState Nat) Nat :=
  ⟨selfManaged, scripted [("commit", [some refusal]), ("close", [some refusal])]⟩

theorem block_ends_by_its_refused_calls :
    Rehearsal.SessionState.ops.NotesAlways ∧
    ofSources (none : Option Nat) true = .ok selfManaged ∧
    ∃ entered, (enter Rehearsal.SessionState.ops.watched).run refusedTwice = (.ok (), entered) ∧
      ∃ left, ((block Rehearsal.SessionState.ops.watched fun _ => pure 5).run
          refusedTwice).2.outer.calls = entered.outer.calls ++ left ∧
        ((block Rehearsal.SessionState.ops.watched fun _ => pure 5).run refusedTwice).1 =
          endOf (.ok 5) left := by
  have notes : Rehearsal.SessionState.ops.NotesAlways := fun _ _ => rfl
  have made : ofSources (none : Option Nat) true = .ok selfManaged := rfl
  have enters : (enter Rehearsal.SessionState.ops.watched).run refusedTwice = (.ok (), _) := rfl
  obtain ⟨left, calls, ends, _⟩ :=
    refused_closing_is_told_before_all_else notes made .start enters fun _ => pure 5
  exact ⟨notes, made, _, enters, left, calls, ends⟩

def boom : Failure := .foreign ⟨.value, [.text "boom"]⟩

/-- The rollback after the failure of the work succeeds, and the block tells that closing was refused. -/
theorem refused_closing_hides_the_failure_of_the_work :
    let ended := (block Rehearsal.SessionState.ops.watched fun _ => (.fail boom : Action _ Unit)).run
      ⟨selfManaged, scripted [("close", [some refusal])]⟩
    .rollback 0 (.ok ()) ∈ ended.2.outer.calls ∧
      ended.2.outer.calls.findSome? SessionCall.rollbackRefusal? = none ∧
      ended.1 = .error (.sessionNotClosed refusal) ∧ ended.1 ≠ .error boom := by
  intro ended
  have told : ended.1 = .error (.sessionNotClosed refusal) := rfl
  have calls : ended.2.outer.calls = [.make (.ok 0), .ask 0 (.ok false), .begin 0 (.ok ()),
      .ask 0 (.ok true), .rollback 0 (.ok ()), .close 0 (.error refusal)] := rfl
  refine ⟨?_, rfl, told, ?_⟩
  · rw [calls]
    simp
  · rw [told]
    simp [boom]

end Blocks

end UnitOfWork
end RecordStore
