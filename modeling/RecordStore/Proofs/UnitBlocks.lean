import RecordStore.Proofs.JoinedChanges

/-!
Blocks of a unit of work: what entering and leaving a unit do to the workspace of the work inside.
-/

namespace RecordStore

namespace Workspace

def recorded (record : JournalRecord) (workspace : Workspace) : Workspace :=
  { workspace with journal := workspace.journal ++ [record] }

theorem storedTable_recorded (id : SessionId) (record : JournalRecord) (workspace : Workspace) :
    (workspace.recorded record).storedTable id = workspace.storedTable id :=
  Steady.storedTable ⟨Nat.le_refl _, rfl, rfl⟩

def finishWrites (model : Model) (id : SessionId) : Action Workspace Unit := do
  useTransaction id
  flush model id

theorem table_rollBack (id : SessionId) (workspace : Workspace) :
    (workspace.rollBack id).table = workspace.storedTable id := by
  simp only [rollBack]
  split
  · rename_i closed
    cases state : (workspace.session id).transaction with
    | closed => exact (storedTable_of_closed state).symm
    | active before => simp [state, Transaction.isClosed] at closed
    | failed cause duringQuery => simp [state, Transaction.isClosed] at closed
  · exact (steady_restoreTransaction id workspace).table

theorem transaction_setTransaction_closed (id : SessionId) (workspace : Workspace) :
    ((workspace.setTransaction id .closed).session id).transaction = .closed := by
  by_cases known : id < workspace.sessions.length
  · rw [setTransaction, session_changeSession_self _ known]
  · rw [session_of_le]
    rw [setTransaction, length_sessions_changeSession]
    exact Nat.not_lt.mp known

theorem storedTable_rollBack (id : SessionId) (workspace : Workspace) :
    (workspace.rollBack id).storedTable id = (workspace.rollBack id).table := by
  refine storedTable_of_closed ?_
  simp only [rollBack]
  split
  · rename_i closed
    cases state : (workspace.session id).transaction with
    | closed => rfl
    | active before => simp [state, Transaction.isClosed] at closed
    | failed cause duringQuery => simp [state, Transaction.isClosed] at closed
  · exact transaction_setTransaction_closed id _

theorem storedTable_keepTransaction (id : SessionId) (workspace : Workspace) :
    (workspace.keepTransaction id).storedTable id = (workspace.keepTransaction id).table := by
  refine storedTable_of_closed ?_
  by_cases known : id < workspace.sessions.length
  · rw [keepTransaction, session_changeSession_self _ known]
  · rw [session_of_le]
    rw [keepTransaction, length_sessions_changeSession]
    exact Nat.not_lt.mp known

theorem withheld_finishWrites (model : Model) (id : SessionId) :
    Action.Moves (Withheld model id) (finishWrites model id) :=
  Action.moves_bind (withheld_useTransaction id) fun _ => withheld_flushWith model id none false

theorem ordinary_of_finishWrites {model : Model} {id : SessionId} {before after : Workspace}
    {failure : Failure} (known : id < before.sessions.length)
    (ran : (finishWrites model id).run before = (.error failure, after)) :
    failure.isOrdinary = true := by
  cases used : (useTransaction id).run before with
  | mk outcome begun =>
      cases outcome with
      | error cause =>
          rw [finishWrites, Action.run_bind_error used] at ran
          obtain ⟨same, _⟩ := Prod.mk.inj ran
          obtain rfl := Except.error.inj same
          exact (run_useTransaction_error used).2.1
      | ok done =>
          obtain ⟨_, rfl⟩ := run_useTransaction_ok_iff.mp used
          rw [finishWrites, Action.run_bind_ok used] at ran
          exact (rejected_of_flushWith (by rwa [length_sessions_begun]) ran).2

end Workspace

namespace UnitOfWork

open Workspace

variable {α : Type} {id : SessionId} {source : Option SessionId} {workspace : Workspace}

abbrev holding (owns : Bool) (id : SessionId) (workspace : Workspace) :
    InUnit Workspace SessionId :=
  ⟨⟨owns, some id⟩, workspace⟩

theorem run_inTransaction (model : Model) (owns : Bool) (id : SessionId) (workspace : Workspace) :
    (outside ((ops model).inTransaction id)).run (holding owns id workspace) =
      (.ok (!(workspace.session id).transaction.isClosed), holding owns id workspace) := rfl

theorem run_rollback (model : Model) (owns : Bool) (id : SessionId) (workspace : Workspace) :
    (rollback (ops model)).run (holding owns id workspace) =
      (.ok (), holding owns id (workspace.rollBack id)) := by
  simp only [rollback, Action.run_handle]
  rw [Action.run_bind_ok (run_currentSession owns id workspace),
    Action.run_bind_ok (run_inTransaction model owns id workspace)]
  cases closed : (workspace.session id).transaction.isClosed with
  | true =>
      have same : workspace.rollBack id = workspace := by
        simp only [rollBack, closed, if_true]
      rw [same]
      rfl
  | false => rfl

def released (owns : Bool) (id : SessionId) (workspace : Workspace) : Workspace :=
  if owns then workspace.closeSession id else workspace

theorem table_released (owns : Bool) (stored : workspace.storedTable id = workspace.table) :
    (released owns id workspace).table = workspace.table := by
  cases owns with
  | false => rfl
  | true => exact stored

theorem storedTable_released (owns : Bool) (stored : workspace.storedTable id = workspace.table) :
    (released owns id workspace).storedTable id = (released owns id workspace).table := by
  cases owns with
  | false => exact stored
  | true =>
      refine storedTable_of_closed ?_
      by_cases known : id < (workspace.restoreTable id).sessions.length
      · rw [released, if_pos rfl, closeSession, session_changeSession_self _ known]
      · rw [session_of_le]
        rw [released, if_pos rfl, closeSession, length_sessions_changeSession]
        exact Nat.not_lt.mp known

abbrev leaving (owns : Bool) (id : SessionId) (workspace : Workspace) : InUnit Workspace SessionId :=
  ⟨⟨owns, if owns then none else some id⟩, released owns id workspace⟩

theorem run_release (model : Model) (owns : Bool) (id : SessionId) (workspace : Workspace) :
    (release (ops model)).run (holding owns id workspace) = (.ok (), leaving owns id workspace) := by
  cases owns <;> rfl

theorem run_commit_ok {model : Model} {owns : Bool} {flushed : Workspace}
    (ran : (finishWrites model id).run workspace = (.ok (), flushed)) :
    (commit (ops model)).run (holding owns id workspace) =
      (.ok (), holding owns id (flushed.keepTransaction id)) := by
  have commits : ((ops model).commit id).run workspace = (.ok (), flushed.keepTransaction id) := by
    have same : (ops model).commit id =
        (finishWrites model id >>= fun _ => Action.modify (keepTransaction id)) := by
      simp only [ops, finishWrites, bind_assoc]
    rw [same, Action.run_bind_ok ran]
    rfl
  simp only [commit, Action.run_handle]
  rw [Action.run_bind_ok (run_currentSession owns id workspace), run_outside, commits]

theorem run_commit_error {model : Model} {owns : Bool} {flushed : Workspace} {failure : Failure}
    (ordinary : failure.isOrdinary = true)
    (ran : (finishWrites model id).run workspace = (.error failure, flushed)) :
    (commit (ops model)).run (holding owns id workspace) = (.error failure,
      holding owns id ((flushed.recorded commitFailedRecord).rollBack id)) := by
  have commits : ((ops model).commit id).run workspace = (.error failure, flushed) := by
    have same : (ops model).commit id =
        (finishWrites model id >>= fun _ => Action.modify (keepTransaction id)) := by
      simp only [ops, finishWrites, bind_assoc]
    rw [same, Action.run_bind_error ran]
  simp only [commit, Action.run_handle]
  rw [Action.run_bind_ok (run_currentSession owns id workspace), run_outside, commits]
  simp only [ordinary, if_true]
  have notes : (outside ((ops model).note commitFailedRecord)).run (holding owns id flushed) =
      (.ok (), holding owns id (flushed.recorded commitFailedRecord)) := rfl
  rw [Action.run_bind_ok notes, Action.run_bind_ok (run_rollback model owns id _)]
  rfl

def sessionIn (source : Option SessionId) (workspace : Workspace) : SessionId :=
  source.getD workspace.sessions.length

def opened (source : Option SessionId) (workspace : Workspace) : Workspace :=
  match source with
  | none => (Repository.withSession workspace).begun workspace.sessions.length
  | some id => workspace.begun id

theorem run_enter (model : Model) (source : Option SessionId) (workspace : Workspace) :
    (enter (ops model)).run ⟨⟨source.isNone, source⟩, workspace⟩ = (.ok (),
      holding source.isNone (sessionIn source workspace) (opened source workspace)) := by
  let begins : Action (InUnit Workspace SessionId) Unit := do
    let session ← currentSession
    if ← outside ((ops model).inTransaction session) then pure ()
    else outside ((ops model).begin session)
  have began (owns : Bool) (id : SessionId) (middle : Workspace) :
      begins.run (holding owns id middle) = (.ok (), holding owns id (middle.begun id)) := by
    simp only [begins]
    rw [Action.run_bind_ok (run_currentSession owns id middle),
      Action.run_bind_ok (run_inTransaction model owns id middle)]
    simp only [begun]
    cases (middle.session id).transaction.isClosed <;> rfl
  simp only [enter, Action.run_handle]
  cases source with
  | none =>
      have started : (start (ops model)).run ⟨⟨true, none⟩, workspace⟩ =
          begins.run (holding true workspace.sessions.length (Repository.withSession workspace)) :=
        rfl
      rw [Option.isNone_none, started, began]
      rfl
  | some id =>
      have started : (start (ops model)).run ⟨⟨false, some id⟩, workspace⟩ =
          begins.run (holding false id workspace) := rfl
      rw [Option.isNone_some, started, began]
      rfl

def Works (owns : Bool) (id : SessionId) (body : Action (InUnit Workspace SessionId) α)
    (work : Action Workspace α) : Prop :=
  ∀ workspace, body.run (holding owns id workspace) =
    ((work.run workspace).1, holding owns id (work.run workspace).2)

theorem run_leave {model : Model} {owns : Bool} (outcome : Option Failure)
    {result : Except Failure Unit} {finished : Workspace}
    (ran : (finish (ops model) outcome).run (holding owns id workspace) =
      (result, holding owns id finished)) :
    (leave (ops model) outcome).run (holding owns id workspace) =
      (result, leaving owns id finished) := by
  rw [leave, Action.run_ensuring, ran, run_release]

section Around

variable {model : Model} {body : Action (InUnit Workspace SessionId) α}
  {work : Action Workspace α} {inside : Workspace}

theorem run_attempt_works {owns : Bool} {start : Workspace} {outcome : Except Failure α}
    (works : Works owns id body work) (ran : work.run start = (outcome, inside)) :
    body.attempt.run (holding owns id start) = (.ok outcome, holding owns id inside) := by
  rw [Action.run_attempt, works, ran]

theorem run_around_error {failure : Failure}
    (works : Works source.isNone (sessionIn source workspace) body work)
    (ran : work.run (opened source workspace) = (.error failure, inside)) :
    (UnitOfWork.inside ⟨source.isNone, source⟩ (around (ops model) body)).run workspace =
      (.error failure, released source.isNone (sessionIn source workspace)
        ((inside.recorded (rollingBackRecord failure)).rollBack (sessionIn source workspace))) := by
  have attempted := run_attempt_works works ran
  have rolls : (finish (ops model) (some failure)).run
      (holding source.isNone (sessionIn source workspace) inside) = (.ok (),
        holding source.isNone (sessionIn source workspace)
          ((inside.recorded (rollingBackRecord failure)).rollBack (sessionIn source workspace))) := by
    have notes : (outside ((ops model).note (rollingBackRecord failure))).run
        (holding source.isNone (sessionIn source workspace) inside) = (.ok (),
          holding source.isNone (sessionIn source workspace)
            (inside.recorded (rollingBackRecord failure))) := rfl
    rw [finish, Action.run_bind_ok notes, run_rollback]
  rw [run_inside, around, Action.run_bind_ok (run_enter model source workspace),
    Action.run_bind_ok attempted, Action.run_bind_ok (run_leave _ rolls)]
  rfl

theorem run_around_ok {value : α} {flushed : Workspace}
    (works : Works source.isNone (sessionIn source workspace) body work)
    (ran : work.run (opened source workspace) = (.ok value, inside))
    (finished : (finishWrites model (sessionIn source workspace)).run inside = (.ok (), flushed)) :
    (UnitOfWork.inside ⟨source.isNone, source⟩ (around (ops model) body)).run workspace =
      (.ok value, released source.isNone (sessionIn source workspace)
        (flushed.keepTransaction (sessionIn source workspace))) := by
  rw [run_inside, around, Action.run_bind_ok (run_enter model source workspace),
    Action.run_bind_ok (run_attempt_works works ran),
    Action.run_bind_ok (run_leave none (run_commit_ok finished))]
  rfl

theorem run_around_unfinished {value : α} {flushed : Workspace} {failure : Failure}
    (works : Works source.isNone (sessionIn source workspace) body work)
    (ran : work.run (opened source workspace) = (.ok value, inside))
    (ordinary : failure.isOrdinary = true)
    (unfinished : (finishWrites model (sessionIn source workspace)).run inside =
      (.error failure, flushed)) :
    (UnitOfWork.inside ⟨source.isNone, source⟩ (around (ops model) body)).run workspace =
      (.error failure, released source.isNone (sessionIn source workspace)
        ((flushed.recorded commitFailedRecord).rollBack (sessionIn source workspace))) := by
  rw [run_inside, around, Action.run_bind_ok (run_enter model source workspace),
    Action.run_bind_ok (run_attempt_works works ran),
    Action.run_bind_error (run_leave none (run_commit_error ordinary unfinished))]

/-- A unit is left in one of two ways. What its work wrote is kept, after all that was left to write;
or it is rolled back, from a workspace whose store kept the table that it kept before. -/
theorem around_cases {outcome : Except Failure α} {after : Workspace}
    (works : Works source.isNone (sessionIn source workspace) body work)
    (known : sessionIn source workspace < (opened source workspace).sessions.length)
    (withheld : Action.Moves (Withheld model (sessionIn source workspace)) work)
    (ran : (UnitOfWork.inside ⟨source.isNone, source⟩ (around (ops model) body)).run workspace =
      (outcome, after)) :
    (∃ value inside flushed, outcome = .ok value ∧
      work.run (opened source workspace) = (.ok value, inside) ∧
      (finishWrites model (sessionIn source workspace)).run inside = (.ok (), flushed) ∧
      after = released source.isNone (sessionIn source workspace)
        (flushed.keepTransaction (sessionIn source workspace))) ∨
    ∃ (failure : Failure) (last : Workspace), outcome = .error failure ∧
      last.storedTable (sessionIn source workspace) =
        (opened source workspace).storedTable (sessionIn source workspace) ∧
      after = released source.isNone (sessionIn source workspace)
        (last.rollBack (sessionIn source workspace)) := by
  -- What the work did and what the commit wrote both stayed within the transaction.
  have moved := withheld (opened source workspace)
  cases worked : work.run (opened source workspace) with
  | mk ended inside =>
      rw [worked] at moved
      cases ended with
      | error failure =>
          rw [run_around_error works worked] at ran
          obtain ⟨rfl, rfl⟩ := Prod.mk.inj ran
          refine .inr ⟨failure, _, rfl, ?_, rfl⟩
          rw [storedTable_recorded, moved.stored known]
      | ok value =>
          have known' := Nat.lt_of_lt_of_le known moved.sessions
          have finishes := withheld_finishWrites model (sessionIn source workspace) inside
          cases finished : (finishWrites model (sessionIn source workspace)).run inside with
          | mk ended flushed =>
              rw [finished] at finishes
              cases ended with
              | ok done =>
                  rw [run_around_ok works worked finished] at ran
                  obtain ⟨rfl, rfl⟩ := Prod.mk.inj ran
                  exact .inl ⟨value, inside, flushed, rfl, rfl, finished, rfl⟩
              | error failure =>
                  have ordinary := ordinary_of_finishWrites known' finished
                  rw [run_around_unfinished works worked ordinary finished] at ran
                  obtain ⟨rfl, rfl⟩ := Prod.mk.inj ran
                  refine .inr ⟨failure, _, rfl, ?_, rfl⟩
                  rw [storedTable_recorded, finishes.stored known', moved.stored known]

theorem run_around_ok_iff {value : α} {after : Workspace}
    (works : Works source.isNone (sessionIn source workspace) body work)
    (known : sessionIn source workspace < (opened source workspace).sessions.length)
    (withheld : Action.Moves (Withheld model (sessionIn source workspace)) work) :
    (UnitOfWork.inside ⟨source.isNone, source⟩ (around (ops model) body)).run workspace =
        (.ok value, after) ↔
      ∃ inside flushed, work.run (opened source workspace) = (.ok value, inside) ∧
        (finishWrites model (sessionIn source workspace)).run inside = (.ok (), flushed) ∧
        after = released source.isNone (sessionIn source workspace)
          (flushed.keepTransaction (sessionIn source workspace)) := by
  constructor
  · intro ran
    rcases around_cases works known withheld ran with
      ⟨value', inside, flushed, same, worked, finished, kept⟩ | ⟨failure, last, same, _⟩
    · obtain rfl := Except.ok.inj same
      exact ⟨inside, flushed, worked, finished, kept⟩
    · cases same
  · rintro ⟨inside, flushed, worked, finished, rfl⟩
    exact run_around_ok works worked finished

theorem table_around_error {failure : Failure} {after : Workspace}
    (works : Works source.isNone (sessionIn source workspace) body work)
    (known : sessionIn source workspace < (opened source workspace).sessions.length)
    (withheld : Action.Moves (Withheld model (sessionIn source workspace)) work)
    (ran : (UnitOfWork.inside ⟨source.isNone, source⟩ (around (ops model) body)).run workspace =
      (.error failure, after)) :
    after.table = (opened source workspace).storedTable (sessionIn source workspace) := by
  rcases around_cases works known withheld ran with
    ⟨_, _, _, same, _⟩ | ⟨_, last, _, stored, rfl⟩
  · cases same
  · rw [table_released _ (storedTable_rollBack _ _), table_rollBack, stored]

theorem storedTable_around {outcome : Except Failure α} {after : Workspace}
    (works : Works source.isNone (sessionIn source workspace) body work)
    (known : sessionIn source workspace < (opened source workspace).sessions.length)
    (withheld : Action.Moves (Withheld model (sessionIn source workspace)) work)
    (ran : (UnitOfWork.inside ⟨source.isNone, source⟩ (around (ops model) body)).run workspace =
      (outcome, after)) : after.storedTable (sessionIn source workspace) = after.table := by
  rcases around_cases works known withheld ran with
    ⟨_, _, flushed, _, _, _, rfl⟩ | ⟨_, last, _, _, rfl⟩
  · exact storedTable_released _ (storedTable_keepTransaction _ flushed)
  · exact storedTable_released _ (storedTable_rollBack _ last)

end Around

theorem sessionIn_known (known : ∀ id ∈ source, id < workspace.sessions.length) :
    sessionIn source workspace < (opened source workspace).sessions.length := by
  cases source with
  | none => simp [sessionIn, opened, Repository.withSession]
  | some id => simpa [sessionIn, opened] using known id rfl

theorem table_opened (source : Option SessionId) (workspace : Workspace) :
    (opened source workspace).table = workspace.table := by
  cases source with
  | none => exact table_begun _ _
  | some id => exact table_begun _ _

def keptBefore (source : Option SessionId) (workspace : Workspace) : Table :=
  match source with
  | none => workspace.table
  | some id => workspace.storedTable id

theorem storedTable_opened (known : ∀ id ∈ source, id < workspace.sessions.length) :
    (opened source workspace).storedTable (sessionIn source workspace) =
      keptBefore source workspace := by
  cases source with
  | none =>
      have fresh : ((Repository.withSession workspace).session workspace.sessions.length).transaction =
          .closed := by
        rw [Repository.session_withSession]
      have begins : (opened none workspace).storedTable workspace.sessions.length =
          (Repository.withSession workspace).storedTable workspace.sessions.length :=
        storedTable_begun (by simp [Repository.withSession])
      exact begins.trans (storedTable_of_closed fresh)
  | some id => exact storedTable_begun (known id rfl)

end UnitOfWork
end RecordStore
