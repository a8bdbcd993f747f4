import RecordStore.Proofs.Outcome
import RecordStore.Proofs.WorkspaceViews

/-!
What a flush leaves behind. A session whose new records are unknown to the store has nothing left to
write after a flush that succeeded.
-/

namespace RecordStore
namespace Workspace

/-- Whether writing records led from one workspace to another: the sessions and the identities of
records stay, and changes only disappear. -/
structure Writes (before after : Workspace) : Prop where
  sessions : after.sessions = before.sessions
  length : after.records.length = before.records.length
  key : ∀ handle, (after.record handle).key = (before.record handle).key
  changes : ∀ handle, (after.record handle).changes = (before.record handle).changes ∨
    (after.record handle).changes = []

theorem Writes.refl (workspace : Workspace) : Writes workspace workspace :=
  ⟨rfl, rfl, fun _ => rfl, fun _ => .inl rfl⟩

theorem Writes.trans {first second third : Workspace} (left : Writes first second)
    (right : Writes second third) : Writes first third where
  sessions := right.sessions.trans left.sessions
  length := right.length.trans left.length
  key handle := (right.key handle).trans (left.key handle)
  changes handle := by
    rcases right.changes handle with same | gone
    · rw [same]
      exact left.changes handle
    · exact .inr gone

theorem writes_withTable (workspace : Workspace) (table : Table) :
    Writes workspace { workspace with table } :=
  ⟨rfl, rfl, fun _ => rfl, fun _ => .inl rfl⟩

theorem writes_changeRecord (workspace : Workspace) (handle : Handle) {edit : Record → Record}
    (key : ∀ record, (edit record).key = record.key)
    (changes : ∀ record, (edit record).changes = record.changes ∨ (edit record).changes = []) :
    Writes workspace (workspace.changeRecord handle edit) where
  sessions := rfl
  length := List.length_modify _ _ _
  key other := by
    rw [record_changeRecord]
    split
    · rename_i found
      rw [key, found.1]
    · rfl
  changes other := by
    rw [record_changeRecord]
    split
    · rename_i found
      rw [found.1]
      exact changes _
    · exact .inl rfl

theorem writes_insertRecord {model : Model} {stamped : Bool} {handle : Handle}
    {before after : Workspace} (ran : before.insertRecord model stamped handle = .ok after) :
    Writes before after := by
  simp only [insertRecord, bind_eq_ok_iff] at ran
  obtain ⟨bound, _, ⟨row, table⟩, _, inserted⟩ := ran
  obtain rfl := Except.ok.inj inserted
  exact (writes_withTable before table).trans
    (writes_changeRecord _ handle (fun _ => rfl) fun _ => .inr rfl)

theorem writes_reloadExpired {model : Model} {handle : Handle} {before after : Workspace}
    (ran : before.reloadExpired model handle = .ok after) : Writes before after := by
  simp only [reloadExpired] at ran
  split at ran
  · obtain ⟨cell, _, located⟩ := bind_eq_ok_iff.mp ran
    split at located
    · obtain rfl := Except.ok.inj located
      exact writes_changeRecord _ handle (fun _ => rfl) fun _ => .inl rfl
    · cases located
  · obtain rfl := Except.ok.inj ran
    exact .refl before

theorem writes_updateRecord {model : Model} {stamped : Bool} {handle : Handle}
    {before after : Workspace} (ran : before.updateRecord model stamped handle = .ok after) :
    Writes before after := by
  simp only [updateRecord, bind_eq_ok_iff] at ran
  obtain ⟨reloaded, reloads, ran⟩ := ran
  refine (writes_reloadExpired reloads).trans ?_
  split at ran
  · obtain rfl := Except.ok.inj ran
    exact .refl reloaded
  · obtain ⟨bound, _, ran⟩ := bind_eq_ok_iff.mp ran
    split at ran
    · cases ran
    · obtain ⟨⟨row, table⟩, _, updated⟩ := bind_eq_ok_iff.mp ran
      obtain rfl := Except.ok.inj updated
      split
      · exact writes_withTable reloaded table
      · exact (writes_withTable reloaded table).trans
          (writes_changeRecord _ handle (fun _ => rfl) fun _ => .inl rfl)

theorem writes_writeRecords {model : Model} {stamped : Option Handle} {changed pending : List Handle}
    {before after : Workspace}
    (ran : before.writeRecords model stamped changed pending = .ok after) : Writes before after := by
  obtain ⟨updated, updates, inserts⟩ := bind_eq_ok_iff.mp ran
  exact (foldlM_relates Writes.refl Writes.trans (fun _ _ _ => writes_updateRecord) updates).trans
    (foldlM_relates Writes.refl Writes.trans (fun _ _ _ => writes_insertRecord) inserts)

structure Settled (id : SessionId) (workspace : Workspace) : Prop where
  noPending : (workspace.session id).pending = []
  unchanged : ∀ handle ∈ (workspace.session id).attached, (workspace.record handle).changes = []

structure SettledBut (id : SessionId) (left : List Handle) (workspace : Workspace) : Prop where
  known : id < workspace.sessions.length
  pending : ∀ handle ∈ (workspace.session id).pending,
    handle ∈ left ∧ (workspace.record handle).key = none
  changed : ∀ handle ∈ (workspace.session id).attached, (workspace.record handle).changes ≠ [] →
    handle ∈ left

theorem settledBut_of_cleared {workspace after : Workspace} {id : SessionId} {handle : Handle}
    {left : List Handle} {edit : Record → Record} (start : SettledBut id (handle :: left) workspace)
    (clears : ∀ record, (edit record).changes = [])
    (length : after.sessions.length = workspace.sessions.length)
    (records : after.records = (workspace.changeRecord handle edit).records)
    (pending : ∀ other ∈ (after.session id).pending,
      other ≠ handle ∧ other ∈ (workspace.session id).pending)
    (attached : ∀ other ∈ (after.session id).attached,
      other = handle ∨ other ∈ (workspace.session id).attached) : SettledBut id left after := by
  have record (other : Handle) :
      after.record other = (workspace.changeRecord handle edit).record other := by
    rw [Workspace.record, records, Workspace.record]
  refine ⟨length ▸ start.known, fun other found => ?_, fun other found changed => ?_⟩
  · obtain ⟨different, waiting⟩ := pending other found
    obtain ⟨listed, keyless⟩ := start.pending other waiting
    refine ⟨(List.mem_cons.mp listed).resolve_left different, ?_⟩
    rw [record, record_changeRecord, if_neg fun same => different same.1]
    exact keyless
  · rw [record, record_changeRecord] at changed
    split at changed
    · exact absurd (clears _) changed
    · rename_i untouched
      have different : other ≠ handle := by
        rintro rfl
        have unknown : workspace.records.length ≤ other :=
          Nat.not_lt.mp fun known => untouched ⟨rfl, known⟩
        rw [record_of_le unknown] at changed
        exact changed rfl
      exact (List.mem_cons.mp (start.changed other ((attached other found).resolve_left different)
        changed)).resolve_left different

theorem settledBut_settleRecord {workspace : Workspace} {id : SessionId} {handle : Handle}
    {left : List Handle} (start : SettledBut id (handle :: left) workspace) :
    SettledBut id left (workspace.settleRecord id handle) := by
  have notPending {before : Value} (key : (workspace.record handle).key = some before) :
      ∀ other ∈ (workspace.session id).pending, other ≠ handle := by
    rintro other waiting rfl
    rw [(start.pending other waiting).2] at key
    cases key
  simp only [settleRecord]
  split
  · refine settledBut_of_cleared start (fun _ => rfl) (by simp) rfl
      (fun other found => ?_) fun other found => ?_
    all_goals rw [session_changeSession_self _ (by simpa using start.known)] at found
    · simpa [and_comm] using found
    · have held := mem_attached_attach handle (by simpa using start.known) found
      exact held
  · rename_i before key
    split
    · exact settledBut_of_cleared start (fun _ => rfl) rfl rfl
        (fun other found => ⟨notPending key other found, found⟩) fun other found => .inr found
    · refine settledBut_of_cleared start (fun _ => rfl) (by simp) rfl
        (fun other found => ?_) fun other found => ?_
      all_goals rw [session_changeSession_self _ (by simpa using start.known)] at found
      · have waiting : other ∈ (workspace.session id).pending := by simpa using found
        exact ⟨notPending key other waiting, waiting⟩
      · have held := mem_attached_attach handle (by simpa using start.known) found
        exact held

theorem settled_of_settledBut {workspace : Workspace} {id : SessionId}
    (settled : SettledBut id [] workspace) : Settled id workspace where
  noPending := List.eq_nil_iff_forall_not_mem.mpr fun handle found =>
    List.not_mem_nil (settled.pending handle found).1
  unchanged handle found := by
    cases changes : (workspace.record handle).changes with
    | nil => rfl
    | cons change rest =>
        exact absurd (settled.changed handle found (by simp [changes])) List.not_mem_nil

theorem settledBut_settleRecords {workspace : Workspace} {id : SessionId} {handles : List Handle}
    (start : SettledBut id handles workspace) :
    SettledBut id [] (handles.foldl (fun workspace handle => workspace.settleRecord id handle)
      workspace) := by
  induction handles generalizing workspace with
  | nil => exact start
  | cons handle rest ih => exact ih (settledBut_settleRecord start)

def begun (id : SessionId) (workspace : Workspace) : Workspace :=
  if (workspace.session id).transaction.isClosed then workspace.beginTransaction id else workspace

section Begun

variable (workspace : Workspace) (id : SessionId)

@[simp] theorem table_begun : (workspace.begun id).table = workspace.table := by
  simp only [begun]
  split <;> rfl

@[simp] theorem records_begun : (workspace.begun id).records = workspace.records := by
  simp only [begun]
  split <;> rfl

@[simp] theorem record_begun (handle : Handle) :
    (workspace.begun id).record handle = workspace.record handle := by
  simp [record]

@[simp] theorem clockCell_begun : (workspace.begun id).clockCell = workspace.clockCell := by
  simp only [begun]
  split <;> rfl

@[simp] theorem length_sessions_begun :
    (workspace.begun id).sessions.length = workspace.sessions.length := by
  simp only [begun]
  split
  · exact List.length_modify _ _ _
  · rfl

theorem session_begun_part {α : Type} (part : Session → α)
    (kept : ∀ session transaction, part { session with transaction } = part session)
    (other : SessionId) :
    part ((workspace.begun id).session other) = part (workspace.session other) := by
  simp only [begun]
  split
  · refine session_changeSession_part _ part ?_ other
    exact fun session => kept session _
  · rfl

@[simp] theorem pending_begun (other : SessionId) :
    ((workspace.begun id).session other).pending = (workspace.session other).pending :=
  session_begun_part workspace id Session.pending (fun _ _ => rfl) other

@[simp] theorem attached_begun (other : SessionId) :
    ((workspace.begun id).session other).attached = (workspace.session other).attached :=
  session_begun_part workspace id Session.attached (fun _ _ => rfl) other

variable {workspace id}

theorem transaction_begun (known : id < workspace.sessions.length) :
    ((workspace.begun id).session id).transaction = (workspace.session id).transaction ∧
        (workspace.session id).transaction.isClosed = false ∨
      (workspace.session id).transaction = .closed ∧
        ((workspace.begun id).session id).transaction = .active workspace.table := by
  simp only [begun, beginTransaction, setTransaction]
  cases state : (workspace.session id).transaction with
  | closed => simp [Transaction.isClosed, session_changeSession_self _ known]
  | active before => simp [Transaction.isClosed, state]
  | failed cause duringQuery => simp [Transaction.isClosed, state]

end Begun

theorem run_useTransaction_ok_iff {id : SessionId} {workspace after : Workspace} :
    (useTransaction id).run workspace = (.ok (), after) ↔
      (∀ cause duringQuery, (workspace.session id).transaction ≠ .failed cause duringQuery) ∧
        after = workspace.begun id := by
  simp only [useTransaction, Action.run_bind, Action.run_get, begun]
  cases (workspace.session id).transaction with
  | closed => simp [Transaction.isClosed, eq_comm]
  | active before => simp [Transaction.isClosed, eq_comm]
  | failed cause duringQuery => simp

theorem changedRecords_eq_nil {id : SessionId} {workspace : Workspace}
    (unchanged : ∀ handle ∈ (workspace.session id).attached, (workspace.record handle).changes = []) :
    workspace.changedRecords id none = [] := by
  have kept : ((workspace.session id).attached.filter fun handle =>
      !(workspace.record handle).changes.isEmpty || none == some handle) = [] := by
    simp +contextual [unchanged]
  simp only [changedRecords, kept, List.mergeSort_nil]

theorem run_flushWith_settled {model : Model} {id : SessionId} {duringQuery : Bool}
    {workspace : Workspace} (settled : Settled id workspace) :
    (flushWith model id none duringQuery).run workspace = (.ok (), workspace) := by
  simp [flushWith, Action.run_bind, changedRecords_eq_nil settled.unchanged, settled.noPending]

/-- A flush that succeeded had nothing to write, or wrote it in the session's transaction. -/
theorem flushWith_ok {model : Model} {id : SessionId} {stamped : Option Handle}
    {duringQuery : Bool} {workspace after : Workspace}
    (ran : (flushWith model id stamped duringQuery).run workspace = (.ok (), after)) :
    (workspace.changedRecords id stamped = [] ∧ (workspace.session id).pending = [] ∧
      after = workspace) ∨
    ∃ written, (workspace.begun id).writeRecords model stamped
        (workspace.changedRecords id stamped) (workspace.session id).pending = .ok written ∧
      after = (workspace.changedRecords id stamped ++ (workspace.session id).pending).foldl
        (fun workspace handle => workspace.settleRecord id handle) written := by
  simp only [flushWith] at ran
  rw [Action.run_bind_ok (Action.run_get workspace)] at ran
  split at ran
  · rename_i nothing
    obtain ⟨_, rfl⟩ := Prod.mk.inj ran
    simp only [Bool.and_eq_true, List.isEmpty_iff] at nothing
    exact .inl ⟨nothing.1, nothing.2, rfl⟩
  · obtain ⟨_, started, begins, ran⟩ := Action.run_bind_ok_iff.mp ran
    obtain ⟨_, rfl⟩ := run_useTransaction_ok_iff.mp begins
    rw [Action.run_bind_ok (Action.run_get _)] at ran
    split at ran
    · rename_i written wrote
      obtain ⟨_, rfl⟩ := Prod.mk.inj ran
      exact .inr ⟨written, wrote, rfl⟩
    · obtain ⟨_, _, _, failed⟩ := Action.run_bind_ok_iff.mp ran
      cases failed

theorem insertRecord_of_flushWith {model : Model} {id : SessionId} {stamped : Option Handle}
    {duringQuery : Bool} {handle : Handle} {workspace after : Workspace}
    (unchanged : workspace.changedRecords id stamped = [])
    (pending : (workspace.session id).pending = [handle])
    (ran : (flushWith model id stamped duringQuery).run workspace = (.ok (), after)) :
    ∃ written, (workspace.begun id).insertRecord model (stamped == some handle) handle = .ok written ∧
      after = written.settleRecord id handle := by
  rcases flushWith_ok ran with ⟨_, nothing, _⟩ | ⟨written, wrote, rfl⟩
  · rw [pending] at nothing
    cases nothing
  · rw [unchanged, pending] at wrote ⊢
    obtain ⟨middle, updates, inserts⟩ := bind_eq_ok_iff.mp wrote
    cases updates
    rw [List.foldlM_cons] at inserts
    obtain ⟨last, inserted, same⟩ := bind_eq_ok_iff.mp inserts
    cases same
    exact ⟨written, inserted, rfl⟩

theorem updateRecord_of_flushWith {model : Model} {id : SessionId} {stamped : Option Handle}
    {duringQuery : Bool} {handle : Handle} {workspace after : Workspace}
    (changed : workspace.changedRecords id stamped = [handle])
    (noPending : (workspace.session id).pending = [])
    (ran : (flushWith model id stamped duringQuery).run workspace = (.ok (), after)) :
    ∃ written, (workspace.begun id).updateRecord model (stamped == some handle) handle = .ok written ∧
      after = written.settleRecord id handle := by
  rcases flushWith_ok ran with ⟨nothing, _⟩ | ⟨written, wrote, rfl⟩
  · rw [changed] at nothing
    cases nothing
  · rw [changed, noPending] at wrote ⊢
    obtain ⟨middle, updates, inserts⟩ := bind_eq_ok_iff.mp wrote
    cases inserts
    rw [List.foldlM_cons] at updates
    obtain ⟨last, updated, same⟩ := bind_eq_ok_iff.mp updates
    cases same
    exact ⟨written, updated, rfl⟩

theorem mem_changedRecords {id : SessionId} {stamped : Option Handle} {workspace : Workspace}
    {handle : Handle} : handle ∈ workspace.changedRecords id stamped ↔
      handle ∈ (workspace.session id).attached ∧
        ((workspace.record handle).changes ≠ [] ∨ stamped = some handle) := by
  simp [changedRecords, List.mem_mergeSort]

theorem settledBut_of_flushWith {model : Model} {id : SessionId} {stamped : Option Handle}
    {duringQuery : Bool} {workspace after : Workspace} (known : id < workspace.sessions.length)
    (keyless : ∀ handle ∈ (workspace.session id).pending, (workspace.record handle).key = none)
    (ran : (flushWith model id stamped duringQuery).run workspace = (.ok (), after)) :
    SettledBut id [] after := by
  rcases flushWith_ok ran with ⟨unchanged, nothing, rfl⟩ | ⟨written, wrote, rfl⟩
  · refine ⟨known, fun handle waiting => ?_, fun handle held changed => ?_⟩
    · simp [nothing] at waiting
    · rw [← unchanged]
      exact mem_changedRecords.mpr ⟨held, .inl changed⟩
  · have writes := writes_writeRecords wrote
    have session : written.session id = (workspace.begun id).session id := by
      simp only [Workspace.session, writes.sessions]
    refine settledBut_settleRecords ⟨by simpa [writes.sessions] using known, ?_, ?_⟩
    · intro handle waiting
      rw [session, pending_begun] at waiting
      rw [writes.key, record_begun]
      exact ⟨List.mem_append_right _ waiting, keyless handle waiting⟩
    · intro handle held changed
      rw [session, attached_begun] at held
      refine List.mem_append_left _ (mem_changedRecords.mpr ⟨held, .inl fun none => ?_⟩)
      rcases writes.changes handle with same | gone
      · exact changed (by rw [same, record_begun, none])
      · exact changed gone

end Workspace
end RecordStore
