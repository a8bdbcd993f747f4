import RecordStore.Session.Workspace

/-!
Transactions of sessions: beginning, and restoring what a transaction changed.
-/

namespace RecordStore.Workspace

def beginTransaction (id : SessionId) (workspace : Workspace) : Workspace :=
  workspace.setTransaction id (.active workspace.table)

/-- Makes sure that a transaction is active; one that has failed has to be rolled back first. -/
def useTransaction (id : SessionId) : Action Workspace Unit := do
  match ((← Action.get).session id).transaction with
  | .active _ => pure ()
  | .closed => Action.modify (beginTransaction id)
  | .failed cause duringQuery => .fail (.store (.rolledBack cause duringQuery))

def restoreTable (id : SessionId) (workspace : Workspace) : Workspace :=
  match (workspace.session id).transaction with
  | .active before => { workspace with table := before }
  | _ => workspace

def forgetAll (handles : List Handle) (workspace : Workspace) : Workspace :=
  handles.foldl (fun workspace handle => workspace.changeRecord handle Record.forget) workspace

def restoreKeys (id : SessionId) (left : List Handle) (rekeyed : List (Handle × Value))
    (workspace : Workspace) : Workspace :=
  rekeyed.foldl (fun workspace entry =>
    let restored := workspace.changeRecord entry.1 fun record => { record with key := some entry.2 }
    if left.contains entry.1 then restored else restored.attach id entry.1) workspace

def restoreRemoved (id : SessionId) (left removed : List Handle) (workspace : Workspace) :
    Workspace :=
  removed.foldl (fun workspace handle =>
    if left.contains handle then workspace
    else (workspace.changeRecord handle fun record => { record with deleted := false }).attach id
      handle) workspace

def expireAttached (id : SessionId) (workspace : Workspace) : Workspace :=
  (workspace.session id).attached.foldl
    (fun workspace handle => workspace.changeRecord handle Record.expire) workspace

/-- Undoes what the transaction of a session did to records. Inserted records are new again but
keep their attributes; all others have to be read again. -/
def restoreRecords (id : SessionId) (workspace : Workspace) : Workspace :=
  let session := workspace.session id
  let left := session.created ++ session.pending
  let forgotten := (workspace.forgetAll left).changeSession id fun session =>
    { session with
      attached := session.attached.filter fun handle => !left.contains handle
      pending := [], created := [], rekeyed := [], removed := [] }
  ((forgotten.restoreKeys id left session.rekeyed).restoreRemoved id left
    session.removed).expireAttached id

def failTransaction (id : SessionId) (cause : StoreFailure) (duringQuery : Bool)
    (workspace : Workspace) : Workspace :=
  ((workspace.restoreTable id).restoreRecords id).setTransaction id (.failed cause duringQuery)

def rollBack (id : SessionId) (workspace : Workspace) : Workspace :=
  if (workspace.session id).transaction.isClosed then workspace
  else ((workspace.restoreTable id).restoreRecords id).setTransaction id .closed

def keepTransaction (id : SessionId) (workspace : Workspace) : Workspace :=
  workspace.changeSession id fun session => { session with
    transaction := .closed, created := [], rekeyed := [], removed := [] }

/-- Closes a session: an open transaction is undone in the table, and the records go on by
themselves. -/
def closeSession (id : SessionId) (workspace : Workspace) : Workspace :=
  (workspace.restoreTable id).changeSession id fun _ => {}

end RecordStore.Workspace
