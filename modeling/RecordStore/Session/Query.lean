import RecordStore.Session.Flush
import RecordStore.Store.Query
import RecordStore.UnitOfWork.Basic

/-!
Reading and merging records. A row that its session knows is read into the record that it has; the
attributes that the record holds stay as they are, unless the record is refreshed.
-/

namespace RecordStore.Workspace

def prepareQuery (model : Model) (id : SessionId) : Action Workspace Unit := do
  flushBeforeQuery model id
  useTransaction id

def loadRow (model : Model) (id : SessionId) (row : Row) : Action Workspace Handle := do
  let workspace ← Action.get
  match workspace.attached? id (.integer row.id) with
  | some handle =>
    Action.modify (changeRecord handle (Record.fill (row.values model)))
    pure handle
  | none =>
    let handle ← addRecord { values := row.values model, key := some (.integer row.id) }
    Action.modify (attach id handle)
    pure handle

def query (id : SessionId) (selection : Selection) : Action Workspace (List Handle) := do
  prepareQuery selection.model id
  let rows ← Action.ofStore (selection.read (← Action.get).table)
  rows.mapM (loadRow selection.model id)

def countRows (id : SessionId) (counting : Counting) : Action Workspace Nat := do
  prepareQuery counting.model id
  Action.ofStore (counting.read (← Action.get).table)

def loadIdentity (model : Model) (id : SessionId) (key : Value) :
    Action Workspace (Option Handle) := do
  useTransaction id
  let cell ← Action.ofStore (Cell.bind 1 key)
  match (← Action.get).table.locate? cell with
  | some row => do pure (some (← loadRow model id row))
  | none => pure none

def revive (model : Model) (id : SessionId) (handle : Handle) :
    Action Workspace (Option Handle) := do
  useTransaction id
  let workspace ← Action.get
  let cell ← Action.ofStore (Cell.bind 1 ((workspace.record handle).key.getD .null))
  match workspace.table.locate? cell with
  | some row =>
    Action.modify (changeRecord handle (Record.fill (row.values model)))
    pure (some handle)
  | none =>
    Action.modify (drop id handle)
    pure none

/-- The identity that a caller means: a value, or the only item of a sequence. -/
def soleIdentity (model : Model) (key : Value) : Except StoreFailure Value :=
  match key.items? with
  | none => .ok key
  | some [only] => .ok only
  | some _ => .error (.identityCount model.table)

def find (model : Model) (id : SessionId) (identity : Value) :
    Action Workspace (Option Handle) := do
  let key ← Action.ofStore (soleIdentity model identity)
  let workspace ← Action.get
  match workspace.attached? id key with
  | some handle =>
    if (workspace.record handle).expired then do
      flushBeforeQuery model id
      revive model id handle
    else pure (some handle)
  | none =>
    flushBeforeQuery model id
    loadIdentity model id key

def refresh (model : Model) (id : SessionId) (handle : Handle) : Action Workspace Unit := do
  prepareQuery model id
  let workspace ← Action.get
  let cell ← Action.ofStore (Cell.bind 1 ((workspace.record handle).key.getD .null))
  match workspace.table.locate? cell with
  | some row => Action.modify (changeRecord handle (Record.load (row.values model)))
  | none => .fail (.store (.notRefreshed model.name))

/-- Puts a record into a session: a new one to be inserted, one with a row to be known again. -/
def add (model : Model) (id : SessionId) (handle : Handle) : Action Workspace Unit := do
  let workspace ← Action.get
  let record := workspace.record handle
  match workspace.owner? handle, record.key with
  | some owner, _ =>
    if owner = id then pure () else .fail (.store (.attachedElsewhere model.name))
  | none, none => Action.modify (changeSession id fun session =>
      { session with pending := session.pending ++ [handle] })
  | none, some key =>
    if record.deleted then .fail (.store (.deletedRecord model.name))
    else if (workspace.attached? id key).isSome then .fail (.store (.identityPresent model.name))
    else Action.modify (attach id handle)

def mergeTarget (model : Model) (id : SessionId) (source : Record) : Action Workspace Handle := do
  let key := source.key.getD ((source.get? Attribute.identity.name).getD .null)
  let workspace ← Action.get
  let known ← match workspace.attached? id key with
    | some handle =>
      if (workspace.record handle).expired then revive model id handle else pure (some handle)
    | none => loadIdentity model id key
  match known with
  | some handle => pure handle
  | none =>
    let handle ← addRecord { values := [] }
    add model id handle
    pure handle

def merge (model : Model) (id : SessionId) (handle : Handle) : Action Workspace Handle := do
  flushBeforeQuery model id
  let source := (← Action.get).record handle
  let target ← mergeTarget model id source
  if target ≠ handle then
    Action.modify (changeRecord target (Record.setAll source.values))
  pure target

def deleteIdentity (model : Model) (id : SessionId) (identity : Value) :
    Action Workspace Unit := do
  let predicate := Predicate.ofTest (Test.equals .identity identity)
  prepareQuery model id
  Action.ofStore (Token.checkBindings (predicate.tokens (.adapter .sqlite) model))
  Action.modify fun workspace =>
    let gone := (workspace.session id).attached.filter fun handle =>
      let record := workspace.record handle
      !record.expired && ((record.get? Attribute.identity.name).getD .null).same identity
    gone.foldl (fun workspace handle => workspace.drop id handle)
      { workspace with table := workspace.table.removeWhere (Predicate.holds · predicate) }

def ops (model : Model) : SessionOps Workspace SessionId where
  factory := addSession
  inTransaction id := do pure !((← Action.get).session id).transaction.isClosed
  begin id := Action.modify (beginTransaction id)
  commit id := do
    useTransaction id
    flush model id
    Action.modify (keepTransaction id)
  rollback id := Action.modify (rollBack id)
  close id := Action.modify (closeSession id)
  note := note

end RecordStore.Workspace
