import RecordStore.Action
import RecordStore.Journal
import RecordStore.Session.Record
import RecordStore.Store.Table

/-!
Workspaces: a table, the records that were made or read from it, and the sessions that work on
both. A session knows each row as one record. Its transaction remembers the table as it was, so
that a rollback can restore it.
-/

namespace RecordStore

abbrev Handle := Nat

abbrev SessionId := Nat

inductive Transaction where
  | closed
  /-- A transaction that began on the given table. -/
  | active (before : Table)
  /-- A transaction that a failed write has ended; it has to be rolled back. -/
  | failed (cause : StoreFailure) (duringQuery : Bool)
  deriving Inhabited

namespace Transaction

def isClosed : Transaction → Bool
  | closed => true
  | _ => false

end Transaction

structure Session where
  transaction : Transaction := .closed
  /-- The records of rows. -/
  attached : List Handle := []
  /-- The records that are to be inserted. -/
  pending : List Handle := []
  /-- The records that were inserted. -/
  created : List Handle := []
  /-- The records whose identity changed, with the former one. -/
  rekeyed : List (Handle × Value) := []
  /-- The records whose row was deleted. -/
  removed : List Handle := []
  deriving Inhabited

structure Workspace where
  clock : DateTime
  table : Table
  records : List Record := []
  sessions : List Session := []
  journal : List JournalRecord := []
  deriving Inhabited

namespace Workspace

def record (workspace : Workspace) (handle : Handle) : Record :=
  (workspace.records[handle]?).getD default

def session (workspace : Workspace) (id : SessionId) : Session :=
  (workspace.sessions[id]?).getD default

def changeRecord (handle : Handle) (change : Record → Record) (workspace : Workspace) : Workspace :=
  { workspace with records := workspace.records.modify handle change }

def changeSession (id : SessionId) (change : Session → Session) (workspace : Workspace) :
    Workspace :=
  { workspace with sessions := workspace.sessions.modify id change }

def setTransaction (id : SessionId) (transaction : Transaction) : Workspace → Workspace :=
  changeSession id fun session => { session with transaction }

def attached? (workspace : Workspace) (id : SessionId) (key : Value) : Option Handle :=
  (workspace.session id).attached.find? fun handle => (workspace.record handle).hasKey key

def owner? (workspace : Workspace) (handle : Handle) : Option SessionId :=
  (List.range workspace.sessions.length).find? fun id =>
    let session := workspace.session id
    session.attached.contains handle || session.pending.contains handle

def attach (id : SessionId) (handle : Handle) (workspace : Workspace) : Workspace :=
  let isOther (other : Handle) : Bool :=
    other != handle && match (workspace.record handle).key with
      | some key => !(workspace.record other).hasKey key
      | none => true
  workspace.changeSession id fun session =>
    { session with attached := session.attached.filter isOther ++ [handle] }

def drop (id : SessionId) (handle : Handle) (workspace : Workspace) : Workspace :=
  (workspace.changeRecord handle fun record => { record with deleted := true }).changeSession id
    fun session => { session with
      attached := session.attached.filter fun other => other != handle
      removed := session.removed ++ [handle] }

def clockCell (workspace : Workspace) : Cell :=
  .text (workspace.clock.dateText ++ " " ++ workspace.clock.clockText)

def addRecord (record : Record) : Action Workspace Handle := do
  let workspace ← Action.get
  Action.modify fun workspace => { workspace with records := workspace.records ++ [record] }
  pure workspace.records.length

def addSession : Action Workspace SessionId := do
  let workspace ← Action.get
  Action.modify fun workspace => { workspace with sessions := workspace.sessions ++ [{}] }
  pure workspace.sessions.length

def note (record : JournalRecord) : Action Workspace Unit :=
  Action.modify fun workspace => { workspace with journal := workspace.journal ++ [record] }

def makeRecord (model : Model) (fields : List (String × Value)) : Action Workspace Handle := do
  let _ ← Action.ofOutcome (model.newRecord fields)
  addRecord { values := fields }

def recordValue (model : Model) (handle : Handle) : Action Workspace Value := do
  pure (.record model.name ((← Action.get).record handle).values)

/-- The identity that a record holds. An expired record has to be read first, which only its
session could do. -/
def readIdentity (model : Model) (handle : Handle) : Action Workspace Value := do
  let workspace ← Action.get
  let record := workspace.record handle
  match record.get? Attribute.identity.name with
  | some id => pure id
  | none =>
    if record.expired then
      match workspace.owner? handle with
      | none => .fail (.store (.detachedRecord model.name))
      | some id =>
        match (workspace.session id).transaction with
        | .failed cause duringQuery => .fail (.store (.rolledBack cause duringQuery))
        | _ => .fail (.store .unloadedAttribute)
    else pure .null

/-- Sets an attribute of a record. Before the identity changes, the former one is read. A name that
is no attribute of the model stays outside the record. -/
def setAttribute (model : Model) (handle : Handle) (name : String) (value : Value) :
    Action Workspace Unit := do
  if name = Attribute.identity.name then
    let _ ← readIdentity model handle
  if (model.attribute? name).isSome then
    Action.modify (changeRecord handle (Record.set name value))

end Workspace
end RecordStore
