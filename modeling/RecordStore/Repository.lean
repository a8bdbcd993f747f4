import RecordStore.Filter.Compile
import RecordStore.Page
import RecordStore.Session.Query

/-!
Repositories: creating, saving, deleting and finding the records of one model. A change runs inside
the unit of work that it is given, or inside one of its own that commits when the change succeeds.
A read uses a session of its own unless it is given a unit of work.
-/

namespace RecordStore

structure Repository where
  model : Model
  registry : Registry := .standard

/-- A request for a list of records. A limit or an offset that is not positive is not set. -/
structure Request where
  filter : Option Filter := none
  order : List String := []
  directions : List Value := []

namespace Repository

abbrev Scope := Option (UnitOfWork SessionId)

variable {α : Type}

def sessionOf (unit : UnitOfWork SessionId) : Action Workspace SessionId :=
  match unit.session with
  | some session => pure session
  | none => .fail .sessionNotCreated

def changing (repository : Repository) (scope : Scope) (body : SessionId → Action Workspace α) :
    Action Workspace α :=
  match scope with
  | some unit => do body (← sessionOf unit)
  | none => UnitOfWork.withinTransaction (Workspace.ops repository.model) body

def reading (scope : Scope) (body : SessionId → Action Workspace α) : Action Workspace α :=
  match scope with
  | some unit => do body (← sessionOf unit)
  | none => do
    let session ← Workspace.addSession
    (body session).ensuring (Action.modify (Workspace.closeSession session))

def debug (message : String) : Action Workspace Unit :=
  Workspace.note ⟨.debug, .repository, message⟩

def debugRecord (repository : Repository) (verb : String) (record : Handle) :
    Action Workspace Unit := do
  let id ← Workspace.readIdentity repository.model record
  debug (verb ++ " " ++ repository.model.name ++ " id=" ++ id.plain)

def insert (repository : Repository) (session : SessionId) (record : Handle) :
    Action Workspace Unit := do
  Workspace.add repository.model session record
  Workspace.flush repository.model session
  Workspace.refresh repository.model session record

def create (repository : Repository) (record : Handle) (scope : Scope := none) :
    Action Workspace Handle := do
  let model := repository.model
  let id ← Workspace.readIdentity model record
  if !isNewIdentity (some id) then
    .fail (.notNew (← Workspace.recordValue model record))
  else
    if id.isZero then Workspace.setAttribute model record Attribute.identity.name .null
    repository.changing scope fun session => repository.insert session record
    repository.debugRecord "Created" record
    pure record

/-- Writes the attributes that a record holds into the row of its identity and sets the row's
moment of change. Without such a row one is inserted. The result is the record that the session
knows. -/
def save (repository : Repository) (record : Handle) (scope : Scope := none) :
    Action Workspace Handle := do
  let model := repository.model
  let id ← Workspace.readIdentity model record
  if isNewIdentity (some id) then
    .fail (.stillNew (← Workspace.recordValue model record))
  else
    let saved ← repository.changing scope fun session => do
      let merged ← Workspace.merge model session record
      Workspace.flushStamped model session merged
      Workspace.refresh model session merged
      pure merged
    repository.debugRecord "Saved" saved
    pure saved

def delete (repository : Repository) (record : Handle) (scope : Scope := none) :
    Action Workspace Unit := do
  let model := repository.model
  repository.changing scope fun session => do
    let id ← Workspace.readIdentity model record
    Workspace.deleteIdentity model session id
  repository.debugRecord "Deleted" record

def criteriaPredicates (model : Model) (criteria : List (String × Value)) :
    Except Failure (List Predicate) :=
  criteria.mapM fun entry =>
    match model.attribute? entry.1 with
    | some attr => do pure (.ofTest (Test.equals attr (← Operator.compared entry.2)))
    | none => .error (.store (.unknownProperty entry.1 model.name model.table))

def firstSelection (model : Model) (predicates : List Predicate) : Selection :=
  ⟨model, predicates, [(.identity, none)], some 1, none⟩

/-- The first record whose attributes equal the criteria, or a new one with the criteria and, for
other attributes, the defaults. The result says whether a record was created. -/
def firstOrCreate (repository : Repository) (criteria defaults : List (String × Value))
    (scope : Scope := none) : Action Workspace (Handle × Bool) := do
  let model := repository.model
  let (record, isCreated) ← repository.changing scope fun session => do
    let predicates ← Action.ofOutcome (criteriaPredicates model criteria)
    match ← Workspace.query session (firstSelection model predicates) with
    | found :: _ => pure (found, false)
    | [] => do
      let record ← Workspace.makeRecord model (assignAll defaults criteria)
      repository.insert session record
      pure (record, true)
  if isCreated then repository.debugRecord "Created" record
  pure (record, isCreated)

def findById (repository : Repository) (id : Value) (scope : Scope := none) :
    Action Workspace Handle := do
  let found ← reading scope fun session => Workspace.find repository.model session id
  match found with
  | some record => pure record
  | none => .fail (.recordNotFound repository.model.name id)

def findAll (repository : Repository) (catalogue : Catalogue) (request : Request)
    (limit offset : Int) (scope : Scope := none) : Action Workspace (List Handle) := do
  let clauses ← Action.ofOutcome (compileFilter catalogue request.filter)
  let terms := SortTerm.compile request.order request.directions
  let selection ← Action.ofOutcome
    (buildSelection repository.registry repository.model clauses terms limit offset)
  debug ("find_filter " ++ repository.model.name ++ " clauses=" ++ toString clauses.length ++
    " order=" ++ (Value.list (terms.map fun term => .text term.toText)).literal ++
    " limit=" ++ toString limit ++ " offset=" ++ toString offset)
  reading scope fun session => Workspace.query session selection

def findPage (repository : Repository) (catalogue : Catalogue) (request : Request)
    (page rows : Int) (scope : Scope := none) : Action Workspace (PagedResult (List Handle)) := do
  let clauses ← Action.ofOutcome (compileFilter catalogue request.filter)
  let terms := SortTerm.compile request.order request.directions
  let (total, window, records) ← reading scope fun session => do
    let counting ← Action.ofOutcome
      (buildCounting repository.registry repository.model clauses)
    let total : Int := ← Workspace.countRows session counting
    let window ← Action.ofOutcome (pageWindow total page rows)
    let selection ← Action.ofOutcome (buildSelection repository.registry repository.model clauses
      terms window.rows window.offset)
    let records ← Workspace.query session selection
    pure (total, window, records)
  debug ("paged_find_filter " ++ repository.model.name ++ " page=" ++ toString window.page ++
    " rows=" ++ toString window.rows ++ " total=" ++ toString total)
  pure (.ofWindow window total records)

def createAll (repository : Repository) (records : List Handle) : Action Workspace Unit :=
  repository.changing none fun session => do
    records.forM (Workspace.add repository.model session)
    Workspace.flush repository.model session

end Repository
end RecordStore
