import RecordStore.Proofs.Outcome
import RecordStore.UnitOfWork.Basic

/-!
What units of work ask of sessions. Sessions of any behaviour are watched, so that every call to them is
kept together with what came of it. Entering, committing, rolling back and leaving a unit each make calls
of a fixed form, and what they tell is told by these calls.
-/

namespace RecordStore

inductive SessionCall (Session : Type) where
  | make (outcome : Except Failure Session)
  | ask (session : Session) (outcome : Except Failure Bool)
  | begin (session : Session) (outcome : Except Failure Unit)
  | commit (session : Session) (outcome : Except Failure Unit)
  | rollback (session : Session) (outcome : Except Failure Unit)
  | close (session : Session) (outcome : Except Failure Unit)

namespace SessionCall

variable {Session : Type}

def session? : SessionCall Session → Option Session
  | make _ => none
  | ask session _ => some session
  | begin session _ => some session
  | commit session _ => some session
  | rollback session _ => some session
  | close session _ => some session

def isMake : SessionCall Session → Bool
  | make _ => true
  | _ => false

def isCommit : SessionCall Session → Bool
  | commit .. => true
  | _ => false

def isClose : SessionCall Session → Bool
  | close .. => true
  | _ => false

end SessionCall

structure Watched (State Session : Type) where
  calls : List (SessionCall Session)
  outer : State

section Watching

variable {State Session α : Type}

def watch (call : Except Failure α → SessionCall Session) (action : Action State α) :
    Action (Watched State Session) α := fun state =>
  match action state.outer with
  | (outcome, after) => (outcome, ⟨state.calls ++ [call outcome], after⟩)

def SessionOps.watched (ops : SessionOps State Session) :
    SessionOps (Watched State Session) Session where
  factory := watch .make ops.factory
  inTransaction session := watch (.ask session) (ops.inTransaction session)
  begin session := watch (.begin session) (ops.begin session)
  commit session := watch (.commit session) (ops.commit session)
  rollback session := watch (.rollback session) (ops.rollback session)
  close session := watch (.close session) (ops.close session)
  note record := (ops.note record).onPart Watched.outer fun outer state => ⟨state.calls, outer⟩

def SessionOps.NotesAlways (ops : SessionOps State Session) : Prop :=
  ∀ record state, ((ops.note record).run state).1 = .ok ()

end Watching

namespace UnitOfWork

variable {State Session α : Type}

def rollbackFailure (failure : Failure) : Failure :=
  if failure.isOrdinary then .rollbackFailed failure else failure

def closeFailure (failure : Failure) : Failure :=
  if failure.isOrdinary then .sessionNotClosed failure else failure

/-- The calls of a step that asks a session for an open transaction first and calls it again if the
answer is the one that needs it, and how the step ends. -/
inductive AsksFirst (session : Session) (needed : Bool)
    (call : Except Failure Unit → SessionCall Session) :
    Except Failure Unit → List (SessionCall Session) → Prop
  | refused (failure : Failure) :
      AsksFirst session needed call (.error failure) [.ask session (.error failure)]
  | idle : AsksFirst session needed call (.ok ()) [.ask session (.ok !needed)]
  | acts (outcome : Except Failure Unit) :
      AsksFirst session needed call outcome [.ask session (.ok needed), call outcome]

abbrev Opens (session : Session) : Except Failure Unit → List (SessionCall Session) → Prop :=
  AsksFirst session false (.begin session)

abbrev RollsBack (session : Session) : Except Failure Unit → List (SessionCall Session) → Prop :=
  AsksFirst session true (.rollback session)

inductive Finishes (session : Session) :
    Option Failure → Except Failure Unit → List (SessionCall Session) → Prop
  | committed : Finishes session none (.ok ()) [.commit session (.ok ())]
  | uncommitted {failure : Failure} {outcome : Except Failure Unit}
      {calls : List (SessionCall Session)} (ordinary : failure.isOrdinary = true)
      (rolls : RollsBack session outcome calls) :
      Finishes session none (outcome.mapError rollbackFailure >>= fun _ => .error failure)
        (.commit session (.error failure) :: calls)
  | interrupted {failure : Failure} (passes : failure.isOrdinary = false) :
      Finishes session none (.error failure) [.commit session (.error failure)]
  | undone (failure : Failure) {outcome : Except Failure Unit} {calls : List (SessionCall Session)}
      (rolls : RollsBack session outcome calls) :
      Finishes session (some failure) (outcome.mapError rollbackFailure) calls

/-- The calls by which a unit is left, and what this tells: a failed closing is told before all else. -/
inductive Leaves (session : Session) (outcome : Option Failure) :
    Bool → Except Failure Unit → List (SessionCall Session) → Prop
  | keeps {told : Except Failure Unit} {calls : List (SessionCall Session)}
      (finishes : Finishes session outcome told calls) : Leaves session outcome false told calls
  | closes {told : Except Failure Unit} {calls : List (SessionCall Session)}
      (finishes : Finishes session outcome told calls) (closing : Except Failure Unit) :
      Leaves session outcome true (closing.mapError closeFailure >>= fun _ => told)
        (calls ++ [.close session closing])

section Runs

variable {ops : SessionOps State Session}

theorem run_watch (unit : UnitOfWork Session) (call : Except Failure α → SessionCall Session)
    (action : Action State α) (state : Watched State Session) : ∃ outcome outer,
    (outside (watch call action)).run ⟨unit, state⟩ =
      (outcome, ⟨unit, ⟨state.calls ++ [call outcome], outer⟩⟩) :=
  ⟨_, _, rfl⟩

theorem run_note (notes : ops.NotesAlways) (unit : UnitOfWork Session) (record : JournalRecord)
    (state : Watched State Session) : ∃ outer,
    (outside (ops.watched.note record)).run ⟨unit, state⟩ = (.ok (), ⟨unit, ⟨state.calls, outer⟩⟩) :=
  ⟨_, Prod.ext (notes record state.outer) rfl⟩

theorem run_asksFirst (ops : SessionOps State Session)
    {next : Bool → Action (InUnit (Watched State Session) Session) Unit} {needed : Bool}
    {call : Except Failure Unit → SessionCall Session} {action : Action State Unit}
    (acts : next needed = outside (watch call action)) (idles : next (!needed) = pure ())
    (unit : UnitOfWork Session) (session : Session) (state : Watched State Session) :
    ∃ outcome calls outer, (outside (ops.watched.inTransaction session) >>= next).run ⟨unit, state⟩ =
        (outcome, ⟨unit, ⟨state.calls ++ calls, outer⟩⟩) ∧
      AsksFirst session needed call outcome calls := by
  obtain ⟨answer, outer, asks⟩ := run_watch unit (.ask session) (ops.inTransaction session) state
  cases answer with
  | error failure => exact ⟨_, _, outer, Action.run_bind_error asks next, .refused failure⟩
  | ok isOpen =>
      have continued := Action.run_bind_ok asks next
      by_cases needs : isOpen = needed
      · subst needs
        obtain ⟨outcome, last, acted⟩ :=
          run_watch unit call action ⟨state.calls ++ [.ask session (.ok isOpen)], outer⟩
        rw [acts, acted, List.append_assoc] at continued
        exact ⟨outcome, _, last, continued, .acts outcome⟩
      · obtain rfl := Bool.eq_not_of_ne needs
        rw [idles] at continued
        exact ⟨.ok (), _, outer, continued, .idle⟩

def opening (ops : SessionOps State Session) (session : Session) :
    Action (InUnit State Session) Unit := do
  if ← outside (ops.inTransaction session) then pure ()
  else outside (ops.begin session)

def undoing (ops : SessionOps State Session) (session : Session) :
    Action (InUnit State Session) Unit := do
  if ← outside (ops.inTransaction session) then outside (ops.rollback session)
  else pure ()

theorem run_opening (ops : SessionOps State Session) (unit : UnitOfWork Session)
    (session : Session) (state : Watched State Session) : ∃ outcome calls outer,
    (opening ops.watched session).run ⟨unit, state⟩ =
        (outcome, ⟨unit, ⟨state.calls ++ calls, outer⟩⟩) ∧ Opens session outcome calls := by
  let next (isOpen : Bool) : Action (InUnit (Watched State Session) Session) Unit :=
    if isOpen then pure () else outside (ops.watched.begin session)
  have acts : next false = outside (watch (.begin session) (ops.begin session)) := rfl
  exact run_asksFirst ops acts rfl unit session state

theorem run_undoing (ops : SessionOps State Session) (unit : UnitOfWork Session)
    (session : Session) (state : Watched State Session) : ∃ outcome calls outer,
    (undoing ops.watched session).run ⟨unit, state⟩ =
        (outcome, ⟨unit, ⟨state.calls ++ calls, outer⟩⟩) ∧ RollsBack session outcome calls := by
  let next (isOpen : Bool) : Action (InUnit (Watched State Session) Session) Unit :=
    if isOpen then outside (ops.watched.rollback session) else pure ()
  have acts : next true = outside (watch (.rollback session) (ops.rollback session)) := rfl
  exact run_asksFirst ops acts rfl unit session state

theorem run_enter_own (ops : SessionOps State Session) (held : Option Session)
    (state : Watched State Session) : ∃ outer,
    (∃ failure, (enter ops.watched).run ⟨⟨true, held⟩, state⟩ =
      (.error (startFailure failure),
        ⟨⟨true, held⟩, ⟨state.calls ++ [.make (.error failure)], outer⟩⟩)) ∨
    ∃ session outcome calls, (enter ops.watched).run ⟨⟨true, held⟩, state⟩ =
        (outcome.mapError startFailure,
          ⟨⟨true, some session⟩, ⟨state.calls ++ .make (.ok session) :: calls, outer⟩⟩) ∧
      Opens session outcome calls := by
  obtain ⟨outcome, outer, makes⟩ := run_watch ⟨true, held⟩ .make ops.factory state
  cases outcome with
  | error failure =>
      have started : (start ops.watched).run ⟨⟨true, held⟩, state⟩ = (.error failure, _) :=
        Action.run_bind_error makes _
      refine ⟨outer, .inl ⟨failure, ?_⟩⟩
      rw [enter, Action.run_handle, started]
      rfl
  | ok session =>
      obtain ⟨outcome, calls, last, opens, form⟩ := run_opening ops ⟨true, some session⟩ session
        ⟨state.calls ++ [.make (.ok session)], outer⟩
      have started : (start ops.watched).run ⟨⟨true, held⟩, state⟩ = (outcome, _) :=
        (Action.run_bind_ok makes _).trans opens
      refine ⟨last, .inr ⟨session, outcome, calls, ?_, form⟩⟩
      rw [enter, Action.run_handle, started, List.append_assoc]
      cases outcome with
      | error failure => rfl
      | ok done => rfl

theorem run_enter_given (ops : SessionOps State Session) (session : Session)
    (state : Watched State Session) : ∃ outcome calls outer,
    (enter ops.watched).run ⟨⟨false, some session⟩, state⟩ =
        (outcome.mapError startFailure, ⟨⟨false, some session⟩, ⟨state.calls ++ calls, outer⟩⟩) ∧
      Opens session outcome calls := by
  obtain ⟨outcome, calls, outer, opens, form⟩ :=
    run_opening ops ⟨false, some session⟩ session state
  have started : (start ops.watched).run ⟨⟨false, some session⟩, state⟩ = (outcome, _) := opens
  refine ⟨outcome, calls, outer, ?_, form⟩
  rw [enter, Action.run_handle, started]
  cases outcome with
  | error failure => rfl
  | ok done => rfl

theorem run_rollback_watched (ops : SessionOps State Session) (owns : Bool) (session : Session)
    (state : Watched State Session) : ∃ outcome calls outer,
    (rollback ops.watched).run ⟨⟨owns, some session⟩, state⟩ =
        (outcome.mapError rollbackFailure,
          ⟨⟨owns, some session⟩, ⟨state.calls ++ calls, outer⟩⟩) ∧
      RollsBack session outcome calls := by
  obtain ⟨outcome, calls, outer, undoes, form⟩ := run_undoing ops ⟨owns, some session⟩ session state
  have undone : (do
      let session ← currentSession
      undoing ops.watched session : Action (InUnit _ Session) Unit).run ⟨⟨owns, some session⟩, state⟩ =
      (outcome, _) := (Action.run_bind_ok (run_currentSession owns session state) _).trans undoes
  refine ⟨outcome, calls, outer, ?_, form⟩
  simp only [undoing] at undone
  rw [rollback, Action.run_handle, undone]
  cases outcome with
  | error failure => rfl
  | ok done => rfl

/-- A commit that failed is rolled back, and its failure is told unless the rollback fails too. An
interruption is told at once. -/
theorem run_commit_watched (ops : SessionOps State Session) (notes : ops.NotesAlways) (owns : Bool)
    (session : Session) (state : Watched State Session) : ∃ told calls outer,
    (commit ops.watched).run ⟨⟨owns, some session⟩, state⟩ =
        (told, ⟨⟨owns, some session⟩, ⟨state.calls ++ calls, outer⟩⟩) ∧
      Finishes session none told calls := by
  obtain ⟨outcome, outer, commits⟩ :=
    run_watch ⟨owns, some session⟩ (.commit session) (ops.commit session) state
  have committed : (do
      let session ← currentSession
      outside (ops.watched.commit session) : Action (InUnit _ Session) Unit).run
        ⟨⟨owns, some session⟩, state⟩ = (outcome, _) :=
    (Action.run_bind_ok (run_currentSession owns session state) _).trans commits
  rw [commit, Action.run_handle, committed]
  cases outcome with
  | ok done => exact ⟨_, _, outer, rfl, .committed⟩
  | error failure =>
      simp only
      split
      · rename_i ordinary
        obtain ⟨noted, writes⟩ := run_note notes ⟨owns, some session⟩ commitFailedRecord
          ⟨state.calls ++ [.commit session (.error failure)], outer⟩
        obtain ⟨outcome, calls, last, rolls, form⟩ := run_rollback_watched ops owns session
          ⟨state.calls ++ [.commit session (.error failure)], noted⟩
        rw [Action.run_bind_ok writes, Action.run_bind, rolls, List.append_assoc]
        refine ⟨_, _, last, ?_, .uncommitted ordinary form⟩
        cases outcome with
        | error cause => rfl
        | ok done => rfl
      · rename_i passes
        exact ⟨_, _, outer, rfl, .interrupted (Bool.not_eq_true _ ▸ passes)⟩

theorem run_finish (ops : SessionOps State Session) (notes : ops.NotesAlways) (owns : Bool)
    (session : Session) (ended : Option Failure) (state : Watched State Session) :
    ∃ told calls outer, (finish ops.watched ended).run ⟨⟨owns, some session⟩, state⟩ =
        (told, ⟨⟨owns, some session⟩, ⟨state.calls ++ calls, outer⟩⟩) ∧
      Finishes session ended told calls := by
  cases ended with
  | none => exact run_commit_watched ops notes owns session state
  | some failure =>
      obtain ⟨noted, writes⟩ :=
        run_note notes ⟨owns, some session⟩ (rollingBackRecord failure) state
      obtain ⟨outcome, calls, outer, rolls, form⟩ :=
        run_rollback_watched ops owns session ⟨state.calls, noted⟩
      rw [finish, Action.run_bind_ok writes]
      exact ⟨_, calls, outer, rolls, .undone failure form⟩

theorem run_leave_watched (ops : SessionOps State Session) (notes : ops.NotesAlways) (owns : Bool)
    (session : Session) (ended : Option Failure) (state : Watched State Session) :
    ∃ told calls outer, (leave ops.watched ended).run ⟨⟨owns, some session⟩, state⟩ =
        (told, ⟨⟨owns, if owns then none else some session⟩, ⟨state.calls ++ calls, outer⟩⟩) ∧
      Leaves session ended owns told calls := by
  obtain ⟨told, calls, outer, finished, form⟩ := run_finish ops notes owns session ended state
  rw [leave, Action.run_ensuring, finished]
  cases owns with
  | false => exact ⟨told, calls, outer, rfl, .keeps form⟩
  | true =>
      obtain ⟨outcome, last, closes⟩ := run_watch ⟨true, some session⟩ (.close session)
        (ops.close session) ⟨state.calls ++ calls, outer⟩
      have released : (release ops.watched).run ⟨⟨true, some session⟩, ⟨state.calls ++ calls, outer⟩⟩ =
          (outcome.mapError closeFailure,
            ⟨⟨true, none⟩, ⟨state.calls ++ (calls ++ [.close session outcome]), last⟩⟩) := by
        have closed : (outside (ops.watched.close session)).run
            ⟨⟨true, some session⟩, ⟨state.calls ++ calls, outer⟩⟩ = (outcome, _) := closes
        have releases : (release ops.watched).run
            ⟨⟨true, some session⟩, ⟨state.calls ++ calls, outer⟩⟩ =
            (((outside (ops.watched.close session)).handle fun failure =>
              .fail (closeFailure failure)).ensuring (setSession none)).run
              ⟨⟨true, some session⟩, ⟨state.calls ++ calls, outer⟩⟩ := rfl
        rw [releases, Action.run_ensuring, Action.run_handle, closed, List.append_assoc]
        cases outcome with
        | error failure => rfl
        | ok done => rfl
      refine ⟨_, _, last, ?_, .closes form outcome⟩
      rw [released]
      cases outcome with
      | error failure => rfl
      | ok done => rfl

end Runs
end UnitOfWork
end RecordStore
