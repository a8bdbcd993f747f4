import RecordStore.Session.Transaction
import RecordStore.Store.Binding

/-!
Flushing a session: the changes of its records and its new records are written into the table, all
of them or none. A failed write ends the transaction.
-/

namespace RecordStore.Workspace

def cellOf? (attr : Attribute) (cells : List (Attribute × Cell)) : Option Cell :=
  (cells.find? fun entry => entry.1.name == attr.name).map Prod.snd

def storedCells (cells : List (Attribute × Cell)) : List (String × Cell) :=
  (cells.filter fun entry => !entry.1.isIdentity).map fun entry =>
    (entry.1.column, entry.2.drawn entry.1.type.affinity)

def writePlaces (sent : List (Attribute × Value)) : List (BindType × Value) :=
  sent.map fun entry => (entry.1.bindType, entry.2)

/-- The values that an insert sends: an attribute that is not set or null has its default, and the
identity and the moments are then left to the store. A stamped record leaves its moment of change
to the store in any case. -/
def insertValues (model : Model) (stamped : Bool) (record : Record) : List (Attribute × Value) :=
  model.attributes.filterMap fun attr =>
    if stamped && attr.name == Attribute.updated.name then none
    else match record.get? attr.name with
      | none => if attr.isSetByStore then none else some (attr, attr.default)
      | some .null => if attr.isSetByStore then none else some (attr, attr.default)
      | some value => some (attr, value)

def insertCells (model : Model) (clock : Cell) (cells : List (Attribute × Cell)) :
    List (String × Cell) :=
  storedCells ((model.attributes.filter fun attr => !attr.isIdentity).map fun attr =>
    (attr, (cellOf? attr cells).getD clock))

def insertRecord (model : Model) (stamped : Bool) (handle : Handle) (workspace : Workspace) :
    Except StoreFailure Workspace := do
  let sent := insertValues model stamped (workspace.record handle)
  let bound ← Cell.bindAll (writePlaces sent)
  let cells := (sent.map Prod.fst).zip bound
  let (row, table) ← workspace.table.insert model (cellOf? .identity cells)
    (insertCells model workspace.clockCell cells)
  let id := ((sent.find? fun entry => entry.1.isIdentity).map Prod.snd).getD (.integer row.id)
  pure ({ workspace with table }.changeRecord handle fun record =>
    record.load (assign Attribute.identity.name id (row.values model)))

def reloadExpired (model : Model) (handle : Handle) (workspace : Workspace) :
    Except StoreFailure Workspace :=
  let record := workspace.record handle
  if record.expired then do
    let cell ← Cell.bind 1 (record.key.getD .null)
    match workspace.table.locate? cell with
    | some row => .ok (workspace.changeRecord handle (Record.fill (row.values model)))
    | none => .error (.missingRow model.name)
  else .ok workspace

/-- Writes the changes of a record into its row, if there are any. The store then sets the moment
of change, unless the record sets it without a stamp; the record no longer holds it then. -/
def updateRecord (model : Model) (stamped : Bool) (handle : Handle) (workspace : Workspace) :
    Except StoreFailure Workspace := do
  let workspace ← workspace.reloadExpired model handle
  let record := workspace.record handle
  let changes := (record.netChanges model).filter fun entry =>
    !(stamped && entry.1.name == Attribute.updated.name)
  if changes.isEmpty && !stamped then .ok workspace
  else
    let located : Attribute × Value := (.identity, record.rowIdentity)
    let bound ← Cell.bindAll (writePlaces (changes ++ [located]))
    let cells := (changes.map Prod.fst).zip bound
    match workspace.table.locate? (bound.getLastD .null) with
    | none => .error (.staleUpdate model.table)
    | some row =>
      let setsMoment := changes.any fun entry => entry.1.name == Attribute.updated.name
      let moment := if setsMoment then []
        else [(Attribute.updated.column, workspace.clockCell)]
      let (_, table) ← workspace.table.update model row (cellOf? .identity cells)
        (storedCells cells ++ moment)
      let after := { workspace with table }
      pure (if setsMoment then after else after.changeRecord handle fun record =>
        { record with values := unassign Attribute.updated.name record.values })

def settleRecord (id : SessionId) (handle : Handle) (workspace : Workspace) : Workspace :=
  let record := workspace.record handle
  let key := (record.get? Attribute.identity.name).getD .null
  let settled := workspace.changeRecord handle fun record =>
    { record with changes := [], key := some key }
  match record.key with
  | none =>
    (settled.attach id handle).changeSession id fun session => { session with
      pending := session.pending.filter fun other => other != handle
      created := session.created ++ [handle] }
  | some before =>
    if before.same key then workspace.changeRecord handle fun record => { record with changes := [] }
    else (settled.attach id handle).changeSession id fun session => { session with
      rekeyed :=
        if (session.rekeyed.lookup handle).isSome then session.rekeyed
        else session.rekeyed ++ [(handle, before)] }

def changedRecords (id : SessionId) (stamped : Option Handle) (workspace : Workspace) :
    List Handle :=
  let changed := (workspace.session id).attached.filter fun handle =>
    !(workspace.record handle).changes.isEmpty || stamped == some handle
  let place (handle : Handle) : Int := match (workspace.record handle).key with
    | some (.integer key) => key
    | _ => 0
  changed.mergeSort fun left right => place left ≤ place right

def writeRecords (model : Model) (stamped : Option Handle) (changed pending : List Handle)
    (workspace : Workspace) : Except StoreFailure Workspace := do
  let updated ← changed.foldlM (fun workspace handle =>
    workspace.updateRecord model (stamped == some handle) handle) workspace
  pending.foldlM (fun workspace handle =>
    workspace.insertRecord model (stamped == some handle) handle) updated

/-- Writes what a session has to write. A failed write undoes the transaction and ends it. -/
def flushWith (model : Model) (id : SessionId) (stamped : Option Handle) (duringQuery : Bool) :
    Action Workspace Unit := do
  let workspace ← Action.get
  let changed := workspace.changedRecords id stamped
  let pending := (workspace.session id).pending
  if changed.isEmpty && pending.isEmpty then pure ()
  else
    useTransaction id
    let workspace ← Action.get
    match workspace.writeRecords model stamped changed pending with
    | .ok written =>
      Action.modify fun _ =>
        (changed ++ pending).foldl (fun workspace handle => workspace.settleRecord id handle) written
    | .error cause =>
      Action.modify (failTransaction id cause duringQuery)
      .fail (.store cause)

def flush (model : Model) (id : SessionId) : Action Workspace Unit :=
  flushWith model id none false

def flushStamped (model : Model) (id : SessionId) (handle : Handle) : Action Workspace Unit :=
  flushWith model id (some handle) false

def flushBeforeQuery (model : Model) (id : SessionId) : Action Workspace Unit :=
  flushWith model id none true

end RecordStore.Workspace
