import RecordStore.Action
import RecordStore.Journal

/-!
Units of work. A unit works on a session, which a caller gives or a factory makes. Leaving the unit
commits when its body succeeded and rolls back when it failed; a session that the unit made is
closed in any case.
-/

namespace RecordStore

structure SessionOps (State Session : Type) where
  factory : Action State Session
  inTransaction : Session → Action State Bool
  begin : Session → Action State Unit
  commit : Session → Action State Unit
  rollback : Session → Action State Unit
  close : Session → Action State Unit
  note : JournalRecord → Action State Unit

structure UnitOfWork (Session : Type) where
  ownsSession : Bool
  session : Option Session
  deriving Repr

structure InUnit (State Session : Type) where
  unit : UnitOfWork Session
  outer : State

namespace UnitOfWork

variable {State Session α : Type}

/-- A unit of work over exactly one source of sessions: a given session or a factory. -/
def ofSources (session : Option Session) (hasFactory : Bool) :
    Except Failure (UnitOfWork Session) :=
  match session, hasFactory with
  | some _, true => .error .twoSessionSources
  | none, false => .error .noSessionSource
  | some session, false => .ok ⟨false, some session⟩
  | none, true => .ok ⟨true, none⟩

def selfManaged : UnitOfWork Session := ⟨true, none⟩

def callerManaged (session : Session) : UnitOfWork Session := ⟨false, some session⟩

def outside (action : Action State α) : Action (InUnit State Session) α :=
  action.onPart InUnit.outer fun outer state => ⟨state.unit, outer⟩

theorem run_outside (action : Action State α) (state : InUnit State Session) :
    (outside action).run state =
      ((action.run state.outer).1, ⟨state.unit, (action.run state.outer).2⟩) := rfl

def self : Action (InUnit State Session) (UnitOfWork Session) := do
  pure (← Action.get).unit

def setSession (session : Option Session) : Action (InUnit State Session) Unit :=
  Action.modify fun state => ⟨⟨state.unit.ownsSession, session⟩, state.outer⟩

def currentSession : Action (InUnit State Session) Session := do
  match (← self).session with
  | some session => pure session
  | none => .fail .sessionNotCreated

theorem run_currentSession (owns : Bool) (session : Session) (outer : State) :
    currentSession.run ⟨⟨owns, some session⟩, outer⟩ =
      (.ok session, ⟨⟨owns, some session⟩, outer⟩) := rfl

def start (ops : SessionOps State Session) : Action (InUnit State Session) Unit := do
  if (← self).ownsSession then
    let session ← outside ops.factory
    setSession (some session)
  let session ← currentSession
  if ← outside (ops.inTransaction session) then pure ()
  else outside (ops.begin session)

/-- How a failure to start is told: a unit's or session's own failure as it is, an interruption as
it is, any other as the cause of a new one. -/
def startFailure (failure : Failure) : Failure :=
  if failure.isOrdinary && !failure.isFromUnit then .unitNotInitialised failure else failure

def enter (ops : SessionOps State Session) : Action (InUnit State Session) Unit :=
  (start ops).handle fun failure => .fail (startFailure failure)

def rollback (ops : SessionOps State Session) : Action (InUnit State Session) Unit :=
  let body : Action (InUnit State Session) Unit := do
    let session ← currentSession
    if ← outside (ops.inTransaction session) then outside (ops.rollback session)
    else pure ()
  body.handle fun failure =>
    .fail (if failure.isOrdinary then .rollbackFailed failure else failure)

def commitFailedRecord : JournalRecord :=
  ⟨.warning, .unitOfWork, "Commit failed, rolling back"⟩

/-- Commits the transaction; a failed commit is rolled back and its failure is told. -/
def commit (ops : SessionOps State Session) : Action (InUnit State Session) Unit :=
  let body : Action (InUnit State Session) Unit := do
    let session ← currentSession
    outside (ops.commit session)
  body.handle fun failure =>
    if failure.isOrdinary then do
      outside (ops.note commitFailedRecord)
      rollback ops
      .fail failure
    else .fail failure

def rollingBackRecord (failure : Failure) : JournalRecord :=
  ⟨.warning, .unitOfWork,
    "Rolling back transaction after " ++ failure.typeName ++ ": " ++ failure.message⟩

def release (ops : SessionOps State Session) : Action (InUnit State Session) Unit := do
  let unit ← self
  match unit.ownsSession, unit.session with
  | true, some session =>
    let closing : Action (InUnit State Session) Unit :=
      (outside (ops.close session)).handle fun failure =>
        .fail (if failure.isOrdinary then .sessionNotClosed failure else failure)
    closing.ensuring (setSession none)
  | _, _ => pure ()

def finish (ops : SessionOps State Session) (outcome : Option Failure) :
    Action (InUnit State Session) Unit :=
  match outcome with
  | none => commit ops
  | some failure => do
    outside (ops.note (rollingBackRecord failure))
    rollback ops

def leave (ops : SessionOps State Session) (outcome : Option Failure) :
    Action (InUnit State Session) Unit :=
  (finish ops outcome).ensuring (release ops)

/-- Runs a body inside the unit. The failure of the body is told unless leaving fails. -/
def around (ops : SessionOps State Session) (body : Action (InUnit State Session) α) :
    Action (InUnit State Session) α := do
  enter ops
  match ← body.attempt with
  | .ok value => do
    leave ops none
    pure value
  | .error failure => do
    leave ops (some failure)
    .fail failure

def inside (unit : UnitOfWork Session) (action : Action (InUnit State Session) α) :
    Action State α := fun state =>
  match action ⟨unit, state⟩ with
  | (outcome, after) => (outcome, after.outer)

theorem run_inside (unit : UnitOfWork Session) (action : Action (InUnit State Session) α)
    (state : State) : (inside unit action).run state =
      ((action.run ⟨unit, state⟩).1, (action.run ⟨unit, state⟩).2.outer) := rfl

def withinTransaction (ops : SessionOps State Session) (body : Session → Action State α) :
    Action State α :=
  inside selfManaged (around ops (do
    let session ← currentSession
    outside (body session)))

end UnitOfWork
end RecordStore
