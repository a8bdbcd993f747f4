import RecordStore.Proofs.SessionReads
import RecordStore.Repository

/-!
The reads of a repository. A read of a given unit of work shows rows as the records of its session,
any other as new records; in both cases later reads leave what it showed as it is.
-/

namespace RecordStore
namespace Repository

open Workspace

def Readable (scope : Scope) (workspace : Workspace) : Prop :=
  match scope with
  | none => True
  | some unit => ∃ id, unit.session = some id ∧ Ready id workspace

def Coherent (scope : Scope) (workspace : Workspace) : Prop :=
  match scope with
  | none => True
  | some unit => ∀ id, unit.session = some id → id < workspace.sessions.length ∧
      ∀ handle ∈ (workspace.session id).pending, (workspace.record handle).key = none

def Kept (scope : Scope) (before after : Workspace) : Prop :=
  match scope with
  | none => after.table = before.table ∧ before.records <+: after.records
  | some unit => ∀ id, unit.session = some id → Reads id before after

/-- Whether a record shows a row: as the record of the session that is given, or else as one that
holds what was read. -/
def Shows (model : Model) (scope : Scope) (workspace : Workspace) (row : Row) (handle : Handle) :
    Prop :=
  match scope with
  | none => workspace.records[handle]? = some (Record.ofRow model row)
  | some unit => ∃ id, unit.session = some id ∧
      workspace.attached? id (.integer row.id) = some handle

abbrev Presents (model : Model) (scope : Scope) (workspace : Workspace) :
    List Row → List Handle → Prop :=
  List.Forall₂ (Shows model scope workspace)

variable {scope : Scope} {model : Model}

theorem Kept.refl (workspace : Workspace) : Kept scope workspace workspace := by
  cases scope with
  | none => exact ⟨rfl, List.prefix_refl _⟩
  | some unit => exact fun id _ => .refl id workspace

theorem Kept.trans {first second third : Workspace} (left : Kept scope first second)
    (right : Kept scope second third) : Kept scope first third := by
  cases scope with
  | none => exact ⟨right.1.trans left.1, left.2.trans right.2⟩
  | some unit => exact fun id held => (left id held).trans (right id held)

section Kept

variable {before after : Workspace} (kept : Kept scope before after)
  (readable : Readable scope before)

include kept readable

theorem Kept.still_readable : Readable scope after := by
  cases scope with
  | none => trivial
  | some unit =>
      obtain ⟨id, held, ready⟩ := readable
      exact ⟨id, held, (kept id held).ready ready⟩

theorem Kept.table : after.table = before.table := by
  cases scope with
  | none => exact kept.1
  | some unit =>
      obtain ⟨id, held, _⟩ := readable
      exact (kept id held).table

theorem Kept.shows {row : Row} {handle : Handle} (shown : Shows model scope before row handle) :
    Shows model scope after row handle := by
  cases scope with
  | none =>
      obtain ⟨more, records⟩ := kept.2
      obtain ⟨bound, _⟩ := List.getElem?_eq_some_iff.mp shown
      rw [Shows, ← records, List.getElem?_append_left bound]
      exact shown
  | some unit =>
      obtain ⟨id, held, ready⟩ := readable
      obtain ⟨id', held', known⟩ := shown
      obtain rfl := Option.some.inj (held.symm.trans held')
      exact ⟨id, held, (kept id held).keeps ready known⟩

theorem Kept.presents {rows : List Row} {handles : List Handle}
    (shown : Presents model scope before rows handles) :
    Presents model scope after rows handles :=
  shown.imp fun _ _ => kept.shows readable

end Kept

theorem Presents.map_record {workspace : Workspace} {rows : List Row} {handles : List Handle}
    (shown : Presents model none workspace rows handles) :
    handles.map workspace.record = rows.map (Record.ofRow model) := by
  induction shown with
  | nil => rfl
  | cons first _ ih =>
      simp only [Shows] at first
      rw [List.map_cons, List.map_cons, ih, Workspace.record, first, Option.getD_some]

theorem Presents.eq {unit : UnitOfWork SessionId} {workspace : Workspace} {rows : List Row}
    {handles others : List Handle} (shown : Presents model (some unit) workspace rows handles)
    (shown' : Presents model (some unit) workspace rows others) : handles = others := by
  induction shown generalizing others with
  | nil =>
      cases shown'
      rfl
  | cons first _ ih =>
      cases shown' with
      | cons first' rest =>
          obtain ⟨id, held, known⟩ := first
          obtain ⟨id', held', known'⟩ := first'
          obtain rfl := Option.some.inj (held.symm.trans held')
          rw [Option.some.inj (known.symm.trans known'), ih rest]

def noted (message : String) (workspace : Workspace) : Workspace :=
  { workspace with journal := workspace.journal ++ [⟨.debug, .repository, message⟩] }

theorem run_debug (message : String) (workspace : Workspace) :
    (debug message).run workspace = (.ok (), noted message workspace) := rfl

theorem kept_noted (message : String) (workspace : Workspace) :
    Kept scope workspace (noted message workspace) := by
  cases scope with
  | none => exact ⟨rfl, List.prefix_refl _⟩
  | some unit =>
      refine fun id _ => ⟨rfl, .inl rfl, fun ready => ?_, fun _ held => held⟩
      exact ⟨ready.known, ⟨ready.settled.noPending, ready.settled.unchanged⟩, ready.sound⟩

/-- What a body of a read has to do on a session that is ready: read rows of a table, and give a
value that has them as records. -/
def ReadsRows {α : Type} (model : Model) (table : Table) (rows : List Row)
    (handles : α → List Handle) (Good : α → Prop) (body : SessionId → Action Workspace α) : Prop :=
  ∀ id workspace, Ready id workspace → workspace.table = table → ∃ value after,
    (body id).run workspace = (.ok value, after) ∧ Good value ∧ Reads id workspace after ∧
      List.Forall₂ (fun row handle => after.attached? id (.integer row.id) = some handle) rows
        (handles value) ∧
      ((workspace.session id).attached = [] → workspace.records <+: after.records ∧
        List.Forall₂ (fun row handle => after.records[handle]? = some (Record.ofRow model row))
          rows (handles value))

def withSession (workspace : Workspace) : Workspace :=
  { workspace with sessions := workspace.sessions ++ [{}] }

theorem run_addSession (workspace : Workspace) :
    addSession.run workspace = (.ok workspace.sessions.length, withSession workspace) := rfl

theorem session_withSession (workspace : Workspace) :
    (withSession workspace).session workspace.sessions.length = {} := by
  simp [withSession, Workspace.session]

theorem ready_withSession (workspace : Workspace) :
    Ready workspace.sessions.length (withSession workspace) := by
  refine ⟨by simp [withSession], ⟨?_, ?_⟩, ?_⟩ <;> simp [session_withSession]

theorem table_closeSession {id : SessionId} {before after : Workspace} (reads : Reads id before after)
    (fresh : (before.session id).transaction = .closed) :
    (after.closeSession id).table = before.table := by
  rcases reads.transaction with same | ⟨_, began⟩
  · simp [closeSession, restoreTable, same, fresh, reads.table]
  · simp [closeSession, restoreTable, began]

theorem records_closeSession (id : SessionId) (workspace : Workspace) :
    (workspace.closeSession id).records = workspace.records := by
  simp only [closeSession, restoreTable, records_changeSession]
  split <;> rfl

theorem run_reading_own {α : Type} (body : SessionId → Action Workspace α) (workspace : Workspace) :
    (reading none body).run workspace =
      (((body workspace.sessions.length).run (withSession workspace)).1,
        ((body workspace.sessions.length).run (withSession workspace)).2.closeSession
          workspace.sessions.length) := by
  simp only [reading]
  rw [Action.run_bind_ok (run_addSession workspace), Action.run_ensuring]
  rfl

theorem run_reading_joined {α : Type} {unit : UnitOfWork SessionId} {id : SessionId}
    (held : unit.session = some id) (body : SessionId → Action Workspace α) (workspace : Workspace) :
    (reading (some unit) body).run workspace = (body id).run workspace := by
  simp only [reading, sessionOf, held]
  rfl

theorem run_reading {α : Type} {body : SessionId → Action Workspace α} {rows : List Row}
    {handles : α → List Handle} {Good : α → Prop} {workspace : Workspace}
    (reads : ReadsRows model workspace.table rows handles Good body)
    (readable : Readable scope workspace) : ∃ value after,
      (reading scope body).run workspace = (.ok value, after) ∧ Good value ∧
        Kept scope workspace after ∧ Presents model scope after rows (handles value) := by
  cases scope with
  | none =>
      let fresh := withSession workspace
      have noRecords : (fresh.session workspace.sessions.length).attached = [] := by
        rw [session_withSession]
      obtain ⟨value, after, ran, good, kept, _, shown⟩ :=
        reads workspace.sessions.length fresh (ready_withSession workspace) rfl
      obtain ⟨grown, shown⟩ := shown noRecords
      have closed : (fresh.session workspace.sessions.length).transaction = .closed := by
        rw [session_withSession]
      refine ⟨value, after.closeSession workspace.sessions.length, ?_, good, ⟨?_, ?_⟩, ?_⟩
      · rw [run_reading_own, ran]
      · have table := table_closeSession kept closed
        exact table
      · rw [records_closeSession]
        exact grown
      · refine shown.imp fun row handle found => ?_
        rw [Shows, records_closeSession]
        exact found
  | some unit =>
      obtain ⟨id, held, ready⟩ := readable
      obtain ⟨value, after, ran, good, kept, known, _⟩ := reads id workspace ready rfl
      refine ⟨value, after, ?_, good, ?_, ?_⟩
      · rw [run_reading_joined held, ran]
      · intro id' held'
        obtain rfl := Option.some.inj (held.symm.trans held')
        exact kept
      · exact known.imp fun _ _ found => ⟨id, held, found⟩

theorem sessionOf_ok_iff {unit : UnitOfWork SessionId} {id : SessionId}
    {workspace after : Workspace} :
    (sessionOf unit).run workspace = (.ok id, after) ↔
      unit.session = some id ∧ workspace = after := by
  rw [sessionOf]
  split
  · rename_i session held
    simp [held]
  · rename_i nothing
    simp [nothing]

theorem read_of_reading {selection : Selection} {workspace after : Workspace}
    {handles : List Handle}
    (ran : (reading none fun session => query session selection).run workspace =
      (.ok handles, after)) : ∃ rows, selection.read workspace.table = .ok rows := by
  rw [run_reading_own] at ran
  cases queried : (query workspace.sessions.length selection).run (withSession workspace) with
  | mk outcome last =>
      rw [queried] at ran
      obtain rfl : outcome = .ok handles := (Prod.mk.inj ran).1
      have read := read_of_query (ready_withSession workspace) queried
      exact read

section Requests

variable {repository : Repository} {catalogue : Catalogue} {request : Request}
  {clauses : List Clause} {workspace : Workspace}

theorem readsRows_query {selection : Selection} {table : Table} {rows : List Row}
    (read : selection.read table = .ok rows) :
    ReadsRows selection.model table rows id (fun _ => True)
      fun session => query session selection := by
  intro id other ready same
  obtain ⟨handles, after, ran, reads, known, fresh⟩ := run_query ready (same ▸ read)
  exact ⟨handles, after, ran, trivial, reads, known, fresh⟩

theorem run_findAll {selection : Selection} {rows : List Row} {limit offset : Int}
    (compiled : compileFilter catalogue request.filter = .ok clauses)
    (built : buildSelection repository.registry repository.model clauses
      (SortTerm.compile request.order request.directions) limit offset = .ok selection)
    (read : selection.read workspace.table = .ok rows) (readable : Readable scope workspace) :
    ∃ handles after,
      (repository.findAll catalogue request limit offset scope).run workspace =
        (.ok handles, after) ∧
      Kept scope workspace after ∧ Presents selection.model scope after rows handles := by
  simp only [findAll, Action.run_bind, Action.run_ofOutcome, compiled, built, run_debug]
  generalize noted_eq : noted _ workspace = start
  obtain ⟨noting, same⟩ : Kept scope workspace start ∧ start.table = workspace.table :=
    noted_eq ▸ ⟨kept_noted _ workspace, rfl⟩
  have reads : ReadsRows selection.model start.table rows id (fun _ => True)
      fun session => query session selection := readsRows_query (same ▸ read)
  obtain ⟨handles, after, ran, _, kept, shown⟩ :=
    run_reading reads (noting.still_readable readable)
  exact ⟨handles, after, ran, noting.trans kept, shown⟩

theorem findAll_ok {after : Workspace} {handles : List Handle} {limit offset : Int}
    (coherent : Coherent scope workspace)
    (ran : (repository.findAll catalogue request limit offset scope).run workspace =
      (.ok handles, after)) :
    ∃ clauses selection rows, compileFilter catalogue request.filter = .ok clauses ∧
      buildSelection repository.registry repository.model clauses
        (SortTerm.compile request.order request.directions) limit offset = .ok selection ∧
      selection.read after.table = .ok rows ∧ Readable scope after ∧
      Presents selection.model scope after rows handles := by
  have whole := ran
  simp only [findAll, Action.run_bind_ok_iff, Action.run_ofOutcome_ok_iff, run_debug] at ran
  obtain ⟨clauses, _, ⟨compiled, rfl⟩, selection, _, ⟨built, rfl⟩, _, start, noting, ran⟩ := ran
  obtain ⟨table, coherent⟩ : start.table = workspace.table ∧ Coherent scope start :=
    (Prod.mk.inj noting).2 ▸ ⟨rfl, coherent⟩
  refine ⟨clauses, selection, ?_⟩
  cases scope with
  | none =>
      obtain ⟨rows, read⟩ := read_of_reading ran
      rw [table] at read
      obtain ⟨handles', after', ran', kept, shown⟩ :=
        run_findAll compiled built read (show Readable none workspace from trivial)
      obtain ⟨same, rfl⟩ := Prod.mk.inj (whole.symm.trans ran')
      obtain rfl := Except.ok.inj same
      exact ⟨rows, compiled, built, by rw [kept.1]; exact read, trivial, shown⟩
  | some unit =>
      obtain ⟨id, _, sessionHeld, queried⟩ := Action.run_bind_ok_iff.mp ran
      obtain ⟨held, rfl⟩ := sessionOf_ok_iff.mp sessionHeld
      obtain ⟨known, keyless⟩ := coherent id held
      obtain ⟨flushed, rows, ready, read, reads, shown⟩ := query_ok known keyless queried
      exact ⟨rows, compiled, built, reads.table ▸ read, ⟨id, held, reads.ready ready⟩,
        shown.imp fun _ _ found => ⟨id, held, found⟩⟩

def pageBody (repository : Repository) (clauses : List Clause) (terms : List SortTerm)
    (page size : Int) (session : SessionId) : Action Workspace (Int × PageWindow × List Handle) := do
  let counting ← Action.ofOutcome (buildCounting repository.registry repository.model clauses)
  let total : Int := ← countRows session counting
  let window ← Action.ofOutcome (pageWindow total page size)
  let selection ← Action.ofOutcome (buildSelection repository.registry repository.model clauses
    terms window.rows window.offset)
  let records ← query session selection
  pure (total, window, records)

theorem findPage_eq (page size : Int) : repository.findPage catalogue request page size scope = (do
    let clauses ← Action.ofOutcome (compileFilter catalogue request.filter)
    let (total, window, records) ← reading scope
      (repository.pageBody clauses (SortTerm.compile request.order request.directions) page size)
    debug ("paged_find_filter " ++ repository.model.name ++ " page=" ++ toString window.page ++
      " rows=" ++ toString window.rows ++ " total=" ++ toString total)
    pure (.ofWindow window total records)) := rfl

theorem run_findPage {counting : Counting} {selection : Selection} {window : PageWindow}
    {rows : List Row} {total : Nat} {page size : Int}
    (compiled : compileFilter catalogue request.filter = .ok clauses)
    (counts : buildCounting repository.registry repository.model clauses = .ok counting)
    (counted : counting.read workspace.table = .ok total)
    (windowed : pageWindow total page size = .ok window)
    (built : buildSelection repository.registry repository.model clauses
      (SortTerm.compile request.order request.directions) window.rows window.offset =
        .ok selection)
    (read : selection.read workspace.table = .ok rows) (readable : Readable scope workspace) :
    ∃ handles after,
      (repository.findPage catalogue request page size scope).run workspace =
        (.ok (.ofWindow window total handles), after) ∧
      Kept scope workspace after ∧ Presents selection.model scope after rows handles := by
  have reads : ReadsRows selection.model workspace.table rows (fun value => value.2.2)
      (fun value => value.1 = (total : Int) ∧ value.2.1 = window)
      (repository.pageBody clauses (SortTerm.compile request.order request.directions) page size) := by
    intro id start ready same
    have begins := reads_begun ready.known
    obtain ⟨handles, after, ran, queried, known, fresh⟩ :=
      run_query (begins.ready ready) (by rw [table_begun, same]; exact read)
    refine ⟨(total, window, handles), after, ?_, ⟨rfl, rfl⟩, begins.trans queried, known, ?_⟩
    · simp only [pageBody, Action.run_bind, Action.run_ofOutcome, counts,
        run_countRows ready (same ▸ counted), windowed, built, ran, Action.run_pure]
    · simpa using fresh
  obtain ⟨⟨total', window', handles⟩, after, ran, ⟨rfl, rfl⟩, kept, shown⟩ :=
    run_reading reads readable
  simp only [findPage_eq, Action.run_bind, Action.run_ofOutcome, compiled, ran, run_debug,
    Action.run_pure]
  exact ⟨handles, _, rfl, kept.trans (kept_noted _ after),
    (kept_noted _ after).presents (kept.still_readable readable) shown⟩

end Requests

end Repository
end RecordStore
