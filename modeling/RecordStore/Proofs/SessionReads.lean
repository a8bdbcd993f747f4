import Mathlib.Data.List.Forall2
import RecordStore.Proofs.Bindings
import RecordStore.Proofs.ExactNumbers
import RecordStore.Proofs.Flushing

/-!
Reading rows into a session. A read changes neither the table nor which record a session knows for
the identity of a row, so that reading a row again gives the same record.
-/

namespace RecordStore

def Record.ofRow (model : Model) (row : Row) : Record :=
  { values := row.values model, key := some (.integer row.id) }

namespace Workspace

structure Ready (id : SessionId) (workspace : Workspace) : Prop where
  known : id < workspace.sessions.length
  settled : Settled id workspace
  sound : ∀ cause duringQuery, (workspace.session id).transaction ≠ .failed cause duringQuery

structure Reads (id : SessionId) (before after : Workspace) : Prop where
  table : after.table = before.table
  transaction : (after.session id).transaction = (before.session id).transaction ∨
    (before.session id).transaction = .closed ∧
      (after.session id).transaction = .active before.table
  ready : Ready id before → Ready id after
  keeps : ∀ {key : Int} {handle : Handle}, Ready id before →
    before.attached? id (.integer key) = some handle →
    after.attached? id (.integer key) = some handle

theorem Reads.refl (id : SessionId) (workspace : Workspace) : Reads id workspace workspace :=
  ⟨rfl, .inl rfl, fun ready => ready, fun _ held => held⟩

theorem Reads.trans {id : SessionId} {first second third : Workspace} (left : Reads id first second)
    (right : Reads id second third) : Reads id first third where
  table := right.table.trans left.table
  transaction := by
    rcases left.transaction with same | ⟨closed, begun⟩ <;>
      rcases right.transaction with same' | ⟨closed', begun'⟩
    · exact .inl (same'.trans same)
    · exact .inr ⟨same ▸ closed', left.table ▸ begun'⟩
    · exact .inr ⟨closed, same'.trans begun⟩
    · exact absurd (begun.symm.trans closed') (by simp)
  ready ready := right.ready (left.ready ready)
  keeps ready held := right.keeps (left.ready ready) (left.keeps ready held)

theorem run_useTransaction_ready {id : SessionId} {workspace : Workspace}
    (ready : Ready id workspace) : (useTransaction id).run workspace = (.ok (), workspace.begun id) :=
  run_useTransaction_ok_iff.mpr ⟨ready.sound, rfl⟩

theorem reads_begun {id : SessionId} {workspace : Workspace}
    (known : id < workspace.sessions.length) : Reads id workspace (workspace.begun id) where
  table := table_begun workspace id
  transaction := (transaction_begun known).imp And.left fun began => began
  ready ready := by
    refine ⟨by simpa using known, ⟨by simpa using ready.settled.noPending, ?_⟩, ?_⟩
    · simpa using ready.settled.unchanged
    · rcases transaction_begun known with ⟨same, _⟩ | ⟨_, began⟩
      · rw [same]
        exact ready.sound
      · simp [began]
  keeps _ held := by
    simpa [attached?] using held

def withRecord (record : Record) (workspace : Workspace) : Workspace :=
  { workspace with records := workspace.records ++ [record] }

theorem record_withRecord (record : Record) (workspace : Workspace) (handle : Handle) :
    (workspace.withRecord record).record handle =
      if handle = workspace.records.length then record else workspace.record handle := by
  simp only [Workspace.record, withRecord]
  rcases Nat.lt_trichotomy handle workspace.records.length with below | same | above
  · rw [List.getElem?_append_left below, if_neg (Nat.ne_of_lt below)]
  · simp [same]
  · rw [List.getElem?_append_right (by omega), if_neg (Nat.ne_of_gt above),
      List.getElem?_eq_none (by simp; omega), List.getElem?_eq_none (by omega)]

@[simp] theorem session_withRecord (record : Record) (workspace : Workspace) (id : SessionId) :
    (workspace.withRecord record).session id = workspace.session id := rfl

def introduce (model : Model) (id : SessionId) (row : Row) (workspace : Workspace) : Workspace :=
  (workspace.withRecord (Record.ofRow model row)).attach id workspace.records.length

theorem run_loadRow (model : Model) (id : SessionId) (row : Row) (workspace : Workspace) :
    (loadRow model id row).run workspace =
      match workspace.attached? id (.integer row.id) with
      | some handle =>
        (.ok handle, workspace.changeRecord handle (Record.fill (row.values model)))
      | none => (.ok workspace.records.length, workspace.introduce model id row) := by
  cases found : workspace.attached? id (.integer row.id) with
  | some handle =>
      simp only [loadRow, Action.run_bind, Action.run_get, found]
      rfl
  | none =>
      simp only [loadRow, Action.run_bind, Action.run_get, found]
      rfl

theorem hasKey_integer_unique {record : Record} {first second : Int}
    (isFirst : record.hasKey (.integer first) = true)
    (isSecond : record.hasKey (.integer second) = true) : first = second := by
  cases key : record.key with
  | none => simp [Record.hasKey, key] at isFirst
  | some held =>
      simp only [Record.hasKey, key] at isFirst isSecond
      exact Value.same_integer_unique isFirst isSecond

theorem attached?_changeRecord {edit : Record → Record} (key : ∀ record, (edit record).key = record.key)
    (workspace : Workspace) (handle : Handle) (id : SessionId) (identity : Value) :
    (workspace.changeRecord handle edit).attached? id identity = workspace.attached? id identity := by
  have same (other : Handle) : ((workspace.changeRecord handle edit).record other).hasKey identity =
      (workspace.record other).hasKey identity := by
    rw [record_changeRecord]
    split
    · rename_i found
      simp only [Record.hasKey, key, found.1]
    · rfl
  simp only [attached?, session_changeRecord, same]

section Introduce

variable {model : Model} {id : SessionId} {row : Row} {workspace : Workspace}

theorem record_introduce (handle : Handle) :
    (workspace.introduce model id row).record handle =
      if handle = workspace.records.length then Record.ofRow model row
      else workspace.record handle := record_withRecord _ _ _

theorem hasKey_introduce (key : Int) (handle : Handle) :
    ((workspace.introduce model id row).record handle).hasKey (.integer key) =
      if handle = workspace.records.length then row.id == key
      else (workspace.record handle).hasKey (.integer key) := by
  rw [record_introduce]
  split
  · simp [Record.hasKey, Record.ofRow, Value.same, Value.sameScalar, Value.number?,
      ExactNumber.equals, ExactNumber.ofInt]
  · rfl

theorem attached_introduce (known : id < workspace.sessions.length) :
    ((workspace.introduce model id row).session id).attached =
      ((workspace.session id).attached.filter fun other =>
        other != workspace.records.length && !(workspace.record other).hasKey (.integer row.id)) ++
        [workspace.records.length] := by
  have known' : id < (workspace.withRecord (Record.ofRow model row)).sessions.length := known
  simp only [introduce, attach, session_changeSession_self _ known', record_withRecord]
  refine congrArg (· ++ [workspace.records.length]) (List.filter_congr fun other _ => ?_)
  by_cases same : other = workspace.records.length
  · simp [same]
  · simp [same, Record.ofRow]

theorem attached?_introduce_self (known : id < workspace.sessions.length) :
    (workspace.introduce model id row).attached? id (.integer row.id) =
      some workspace.records.length := by
  have first : (((workspace.session id).attached.filter fun other =>
      other != workspace.records.length && !(workspace.record other).hasKey (.integer row.id)).find?
      fun handle => if handle = workspace.records.length then row.id == row.id
        else (workspace.record handle).hasKey (.integer row.id)) = none := by
    rw [List.find?_eq_none]
    intro other held
    simp only [List.mem_filter, Bool.and_eq_true, bne_iff_ne, Bool.not_eq_true'] at held
    simp [held.2.1, held.2.2]
  rw [attached?, attached_introduce known]
  simp only [hasKey_introduce, List.find?_append, first]
  simp

theorem attached?_introduce_of_ne (known : id < workspace.sessions.length) {key : Int}
    (different : key ≠ row.id) :
    (workspace.introduce model id row).attached? id (.integer key) =
      workspace.attached? id (.integer key) := by
  have apart (handle : Handle) : (decide ((handle != workspace.records.length &&
        !(workspace.record handle).hasKey (.integer row.id)) = true ∧
      (if handle = workspace.records.length then row.id == key
        else (workspace.record handle).hasKey (.integer key)) = true)) =
      (workspace.record handle).hasKey (.integer key) := by
    by_cases added : handle = workspace.records.length
    · have unknown : (workspace.record handle).hasKey (.integer key) = false := by
        rw [record_of_le (Nat.le_of_eq added.symm)]
        rfl
      simp [added ▸ unknown, added]
    · cases here : (workspace.record handle).hasKey (.integer key) with
      | false => simp [added]
      | true =>
          cases there : (workspace.record handle).hasKey (.integer row.id) with
          | false => simp [added]
          | true => exact absurd (hasKey_integer_unique here there) different
  rw [attached?, attached_introduce known]
  simp only [hasKey_introduce, List.find?_append, List.find?_filter, apart]
  simp [attached?, Ne.symm different]

end Introduce

theorem settled_changeRecord {id : SessionId} {workspace : Workspace} (handle : Handle)
    {edit : Record → Record}
    (changes : ∀ record, (edit record).changes = record.changes ∨ (edit record).changes = [])
    (settled : Settled id workspace) : Settled id (workspace.changeRecord handle edit) := by
  refine ⟨settled.noPending, fun other held => ?_⟩
  rw [record_changeRecord]
  split
  · rename_i found
    rcases changes (workspace.record handle) with same | gone
    · rw [same, ← found.1]
      exact settled.unchanged other held
    · exact gone
  · exact settled.unchanged other held

theorem settled_introduce {model : Model} {id : SessionId} {row : Row} {workspace : Workspace}
    (known : id < workspace.sessions.length) (settled : Settled id workspace) :
    Settled id (workspace.introduce model id row) := by
  refine ⟨by simpa [introduce] using settled.noPending, fun other held => ?_⟩
  rw [record_introduce]
  split
  · rfl
  · rename_i different
    rw [attached_introduce known] at held
    have before : other ∈ (workspace.session id).attached := by
      simp only [List.mem_append, List.mem_filter, List.mem_singleton, different, or_false] at held
      exact held.1
    exact settled.unchanged other before

theorem ready_introduce {model : Model} {id : SessionId} {row : Row} {workspace : Workspace}
    (ready : Ready id workspace) : Ready id (workspace.introduce model id row) :=
  ⟨by simpa [introduce, withRecord] using ready.known, settled_introduce ready.known ready.settled,
    by simpa [introduce] using ready.sound⟩

theorem loadRow_reads (model : Model) {id : SessionId} (row : Row) {workspace : Workspace}
    (ready : Ready id workspace) : ∃ handle after,
      (loadRow model id row).run workspace = (.ok handle, after) ∧ Reads id workspace after ∧
        after.attached? id (.integer row.id) = some handle := by
  have keepsKey (record : Record) : (record.fill (row.values model)).key = record.key := rfl
  rw [run_loadRow]
  cases found : workspace.attached? id (.integer row.id) with
  | some handle =>
      refine ⟨handle, _, rfl, ⟨rfl, .inl rfl, fun ready =>
        ⟨ready.known, settled_changeRecord handle (fun _ => .inl rfl) ready.settled, ready.sound⟩, ?_⟩,
        ?_⟩
      · intro key other _ held
        rw [attached?_changeRecord keepsKey]
        exact held
      · rw [attached?_changeRecord keepsKey]
        exact found
  | none =>
      refine ⟨_, _, rfl, ⟨rfl, .inl ?_, ready_introduce, ?_⟩, attached?_introduce_self ready.known⟩
      · exact transaction_attach _ _
      · intro key other _ held
        by_cases same : key = row.id
        · rw [same, found] at held
          cases held
        · rw [attached?_introduce_of_ne ready.known same]
          exact held

theorem loadRows_reads (model : Model) {id : SessionId} (rows : List Row) {workspace : Workspace}
    (ready : Ready id workspace) : ∃ handles after,
      (rows.mapM (loadRow model id)).run workspace = (.ok handles, after) ∧
        Reads id workspace after ∧
        List.Forall₂ (fun row handle => after.attached? id (.integer row.id) = some handle) rows
          handles := by
  induction rows generalizing workspace with
  | nil => exact ⟨[], workspace, rfl, .refl id workspace, .nil⟩
  | cons row rows ih =>
      -- The later rows are read under the same invariant, which keeps the record of this row.
      obtain ⟨handle, middle, ran, reads, held⟩ := loadRow_reads model row ready
      obtain ⟨handles, after, ranRest, readsRest, heldRest⟩ := ih (reads.ready ready)
      refine ⟨handle :: handles, after, ?_, reads.trans readsRest,
        .cons (readsRest.keeps (reads.ready ready) held) heldRest⟩
      rw [List.mapM_cons, Action.run_bind_ok ran, Action.run_bind_ok ranRest]
      rfl

theorem loadRows_fresh (model : Model) {id : SessionId} {rows : List Row} {workspace : Workspace}
    (ready : Ready id workspace) (distinct : rows.Pairwise fun left right => left.id ≠ right.id)
    (unknown : ∀ row ∈ rows, workspace.attached? id (.integer row.id) = none) :
    ∃ handles after, (rows.mapM (loadRow model id)).run workspace = (.ok handles, after) ∧
      after.records = workspace.records ++ rows.map (Record.ofRow model) ∧
      List.Forall₂ (fun row handle => after.records[handle]? = some (Record.ofRow model row)) rows
        handles := by
  induction rows generalizing workspace with
  | nil => exact ⟨[], workspace, rfl, (List.append_nil _).symm, .nil⟩
  | cons row rows ih =>
      obtain ⟨apart, distinctRest⟩ := List.pairwise_cons.mp distinct
      have ran : (loadRow model id row).run workspace =
          (.ok workspace.records.length, workspace.introduce model id row) := by
        rw [run_loadRow, unknown row List.mem_cons_self]
      have ready' : Ready id (workspace.introduce model id row) := ready_introduce ready
      obtain ⟨handles, after, ranRest, records, shown⟩ := ih ready' distinctRest
        fun other later => by
          rw [attached?_introduce_of_ne ready.known (apart other later).symm]
          exact unknown other (List.mem_cons_of_mem _ later)
      have records' : after.records =
          workspace.records ++ (row :: rows).map (Record.ofRow model) := by
        simpa [introduce, withRecord] using records
      refine ⟨workspace.records.length :: handles, after, ?_, records', .cons ?_ shown⟩
      · rw [List.mapM_cons, Action.run_bind_ok ran, Action.run_bind_ok ranRest]
        rfl
      · simp [records']

theorem run_prepareQuery (model : Model) {id : SessionId} {workspace : Workspace}
    (ready : Ready id workspace) :
    (prepareQuery model id).run workspace = (.ok (), workspace.begun id) := by
  rw [prepareQuery, flushBeforeQuery, Action.run_bind_ok (run_flushWith_settled ready.settled)]
  exact run_useTransaction_ready ready

/-- A count begins a transaction before it finds out what the store refuses. -/
theorem run_countRows_eq {id : SessionId} {counting : Counting} {workspace : Workspace}
    (ready : Ready id workspace) : (countRows id counting).run workspace =
      ((counting.read workspace.table).mapError .store, workspace.begun id) := by
  rw [countRows, Action.run_bind_ok (run_prepareQuery _ ready), Action.run_bind_ok (Action.run_get _),
    table_begun]
  rfl

theorem run_countRows {id : SessionId} {counting : Counting} {workspace : Workspace} {total : Nat}
    (ready : Ready id workspace) (counted : counting.read workspace.table = .ok total) :
    (countRows id counting).run workspace = (.ok total, workspace.begun id) := by
  rw [run_countRows_eq ready, counted]
  rfl

end Workspace

theorem Selection.select_distinct (selection : Selection) (table : Table) :
    (selection.select table.rows).Pairwise fun left right => left.id ≠ right.id := by
  have kept : (table.rows.filter (Predicate.allHold selection.predicates)).Pairwise
      fun left right => left.id ≠ right.id :=
    (table.sorted.imp Int.ne_of_lt).filter _
  have sorted := kept.perm (List.mergeSort_perm _ (mayPrecede selection.order)).symm
    fun different => different.symm
  simp only [select, cutWindow]
  split
  · exact (sorted.drop).take
  · exact sorted.drop

namespace Workspace

theorem run_query {id : SessionId} {selection : Selection} {workspace : Workspace} {rows : List Row}
    (ready : Ready id workspace) (read : selection.read workspace.table = .ok rows) :
    ∃ handles after, (query id selection).run workspace = (.ok handles, after) ∧
      Reads id workspace after ∧
      List.Forall₂ (fun row handle => after.attached? id (.integer row.id) = some handle) rows
        handles ∧
      ((workspace.session id).attached = [] → workspace.records <+: after.records ∧
        List.Forall₂ (fun row handle =>
          after.records[handle]? = some (Record.ofRow selection.model row)) rows handles) := by
  have begins := reads_begun ready.known
  have ready' := begins.ready ready
  obtain ⟨handles, after, ran, reads, held⟩ := loadRows_reads selection.model rows ready'
  refine ⟨handles, after, ?_, begins.trans reads, held, fun nothing => ?_⟩
  · rw [query, Action.run_bind_ok (run_prepareQuery _ ready),
      Action.run_bind_ok (Action.run_get _), table_begun, read]
    exact ran
  · have distinct : rows.Pairwise fun left right => left.id ≠ right.id :=
      (Selection.read_ok_iff.mp read).2 ▸ selection.select_distinct workspace.table
    obtain ⟨handles', after', ran', records, shown⟩ := loadRows_fresh selection.model ready' distinct
      fun row _ => by simp [attached?, nothing]
    obtain ⟨same, rfl⟩ := Prod.mk.inj (ran.symm.trans ran')
    obtain rfl := Except.ok.inj same
    exact ⟨⟨_, by simpa using records.symm⟩, shown⟩

theorem read_of_query {id : SessionId} {selection : Selection} {workspace after : Workspace}
    {handles : List Handle} (ready : Ready id workspace)
    (ran : (query id selection).run workspace = (.ok handles, after)) :
    ∃ rows, selection.read workspace.table = .ok rows := by
  rw [query, Action.run_bind_ok (run_prepareQuery _ ready), Action.run_bind_ok (Action.run_get _),
    table_begun] at ran
  obtain ⟨rows, _, read, _⟩ := Action.run_bind_ok_iff.mp ran
  cases outcome : selection.read workspace.table with
  | ok rows => exact ⟨rows, rfl⟩
  | error failure =>
      rw [outcome] at read
      cases (Prod.mk.inj read).1

/-- A selection that succeeded first wrote what there was to write; the session can then read the
selected rows. -/
theorem query_ok {id : SessionId} {selection : Selection} {workspace after : Workspace}
    {handles : List Handle} (known : id < workspace.sessions.length)
    (keyless : ∀ handle ∈ (workspace.session id).pending, (workspace.record handle).key = none)
    (ran : (query id selection).run workspace = (.ok handles, after)) :
    ∃ flushed rows, Ready id flushed ∧ selection.read flushed.table = .ok rows ∧
      Reads id flushed after ∧
      List.Forall₂ (fun row handle => after.attached? id (.integer row.id) = some handle) rows
        handles := by
  obtain ⟨_, _, prepares, _⟩ := Action.run_bind_ok_iff.mp ran
  obtain ⟨_, flushed, flushes, begins⟩ := Action.run_bind_ok_iff.mp prepares
  have settled := settledBut_of_flushWith known keyless flushes
  have ready : Ready id flushed :=
    ⟨settled.known, settled_of_settledBut settled, (run_useTransaction_ok_iff.mp begins).1⟩
  have again : (query id selection).run flushed = (query id selection).run workspace := by
    obtain ⟨_, rfl⟩ := run_useTransaction_ok_iff.mp begins
    exact Action.run_bind_congr ((run_prepareQuery _ ready).trans prepares.symm) _
  rw [← again] at ran
  obtain ⟨rows, read⟩ := read_of_query ready ran
  obtain ⟨handles', after', ran', reads, shown, _⟩ := run_query ready read
  obtain ⟨same, rfl⟩ := Prod.mk.inj (ran.symm.trans ran')
  obtain rfl := Except.ok.inj same
  exact ⟨flushed, rows, ready, read, reads, shown⟩

end Workspace
end RecordStore
