import RecordStore.Proofs.OrderlySessions

/-!
Records that a session is to insert. The store does not know them before, so the transaction of the session
inserted whatever the store knows of them; a rollback lets go of them and leaves what they hold.
-/

namespace RecordStore

/-- Whether a transaction that is undone has to give a record its row or its identity back. -/
def Session.Owes (session : Session) (handle : Handle) : Prop :=
  handle ∈ session.removed ∨ handle ∈ session.rekeyed.map Prod.fst

namespace Workspace

def Traces (id : SessionId) (handle : Handle) (workspace : Workspace) : Prop :=
  (workspace.record handle).key ≠ none ∨ handle ∈ (workspace.session id).attached ∨
    (workspace.session id).Owes handle

/-- Whether all traces of a record go back to its insertion in the transaction of a session. A session that
is given up owes the record nothing. -/
structure Hosts (id : SessionId) (guest : Handle) (workspace : Workspace) : Prop where
  known : id < workspace.sessions.length
  bound : guest < workspace.records.length
  own : ¬workspace.Rejected id → workspace.Traces id guest → guest ∈ (workspace.session id).created
  cleared : workspace.Rejected id → ¬(workspace.session id).Owes guest

def Hosting (id : SessionId) (guest : Handle) (before after : Workspace) : Prop :=
  Hosts id guest before → Hosts id guest after

instance (id : SessionId) (guest : Handle) : IsPreorder Workspace (Hosting id guest) where
  refl _ hosts := hosts
  trans _ _ _ left right hosts := right (left hosts)

variable {model : Model} {id : SessionId} {guest handle : Handle} {before after workspace : Workspace}

section Hosts

theorem hosts_of_untraced (known : id < workspace.sessions.length)
    (bound : guest < workspace.records.length) (untraced : ¬workspace.Traces id guest) :
    Hosts id guest workspace :=
  ⟨known, bound, fun _ traced => absurd traced untraced, fun _ owes => untraced (.inr (.inr owes))⟩

theorem Hosts.of_same (hosts : Hosts id guest before)
    (session : after.session id = before.session id)
    (sessions : before.sessions.length ≤ after.sessions.length)
    (records : before.records.length ≤ after.records.length)
    (key : (after.record guest).key = (before.record guest).key) : Hosts id guest after := by
  refine ⟨Nat.lt_of_lt_of_le hosts.known sessions, Nat.lt_of_lt_of_le hosts.bound records, ?_, ?_⟩
  · rw [Rejected, Traces, session, key]
    exact hosts.own
  · rw [Rejected, session]
    exact hosts.cleared

theorem key_changeRecord {edit : Record → Record} (key : ∀ record, (edit record).key = record.key)
    (other : Handle) :
    ((workspace.changeRecord handle edit).record other).key = (workspace.record other).key := by
  rw [record_changeRecord]
  split
  · rename_i found
    rw [key, found.1]
  · rfl

theorem Hosts.changeRecord {edit : Record → Record} (key : ∀ record, (edit record).key = record.key)
    (hosts : Hosts id guest workspace) : Hosts id guest (workspace.changeRecord handle edit) :=
  hosts.of_same rfl (Nat.le_refl _) (Nat.le_of_eq (List.length_modify _ _ _).symm)
    (key_changeRecord key guest)

theorem Hosts.withRecord (record : Record) (hosts : Hosts id guest workspace) :
    Hosts id guest (workspace.withRecord record) := by
  refine hosts.of_same rfl (Nat.le_refl _) ?_ ?_
  · simp [Workspace.withRecord]
  · rw [record_withRecord, if_neg (Nat.ne_of_lt hosts.bound)]

theorem rejected_begun_iff (known : id < workspace.sessions.length) :
    (workspace.begun id).Rejected id ↔ workspace.Rejected id := by
  refine ⟨fun ⟨cause, duringQuery, failed⟩ => ?_, rejected_begun⟩
  rcases transaction_begun known with ⟨same, _⟩ | ⟨_, began⟩
  · exact ⟨cause, duringQuery, same.symm.trans failed⟩
  · cases began.symm.trans failed

theorem session_begun (known : id < workspace.sessions.length) : ∃ transaction,
    (workspace.begun id).session id = { workspace.session id with transaction } := by
  rw [begun]
  split
  · exact ⟨_, session_changeSession_self _ known⟩
  · exact ⟨_, rfl⟩

theorem Hosts.begun (hosts : Hosts id guest workspace) : Hosts id guest (workspace.begun id) := by
  obtain ⟨transaction, session⟩ := session_begun hosts.known
  refine ⟨?_, ?_, ?_, ?_⟩
  · rw [length_sessions_begun]
    exact hosts.known
  · rw [records_begun]
    exact hosts.bound
  · rw [rejected_begun_iff hosts.known, Traces, session, record_begun]
    exact hosts.own
  · rw [rejected_begun_iff hosts.known, session]
    exact hosts.cleared

theorem session_attach (known : id < workspace.sessions.length) (handle : Handle) :
    ∃ others, (∀ other ∈ others, other ∈ (workspace.session id).attached) ∧
      (workspace.attach id handle).session id =
        { workspace.session id with attached := others ++ [handle] } := by
  refine ⟨_, fun other => ?_, session_changeSession_self _ known⟩
  exact List.mem_of_mem_filter

theorem Hosts.attach (hosts : Hosts id guest workspace)
    (traced : handle = guest → workspace.Traces id guest) :
    Hosts id guest (workspace.attach id handle) := by
  obtain ⟨others, held, session⟩ := session_attach hosts.known handle
  have rejected : (workspace.attach id handle).Rejected id ↔ workspace.Rejected id :=
    (still_attach id handle workspace).rejected_iff
  refine ⟨?_, hosts.bound, fun accepted traces => ?_, ?_⟩
  · rw [length_sessions_attach]
    exact hosts.known
  · rw [rejected] at accepted
    rw [session]
    refine hosts.own accepted ?_
    rw [Traces, session] at traces
    rcases traces with keyed | attached | owed
    · exact .inl keyed
    · rcases List.mem_append.mp attached with there | here
      · exact .inr (.inl (held guest there))
      · exact traced (List.mem_singleton.mp here).symm
    · exact .inr (.inr owed)
  · rw [rejected, session]
    exact hosts.cleared

theorem Hosts.drop (hosts : Hosts id guest workspace) (accepted : ¬workspace.Rejected id)
    (created : handle = guest → guest ∈ (workspace.session id).created) :
    Hosts id guest (workspace.drop id handle) := by
  let marked := workspace.changeRecord handle fun record => { record with deleted := true }
  have session : (workspace.drop id handle).session id = { workspace.session id with
      attached := (workspace.session id).attached.filter fun other => other != handle
      removed := (workspace.session id).removed ++ [handle] } :=
    session_changeSession_self _ hosts.known
  have sound : ¬(workspace.drop id handle).Rejected id :=
    (still_drop id handle workspace).rejected_iff.not.mpr accepted
  have key : ((workspace.drop id handle).record guest).key = (workspace.record guest).key := by
    have same : ((workspace.drop id handle).record guest).key = (marked.record guest).key := rfl
    refine same.trans (key_changeRecord ?_ guest)
    exact fun _ => rfl
  refine ⟨?_, ?_, fun _ traces => ?_, fun given => absurd given sound⟩
  · rw [Workspace.drop, length_sessions_changeSession]
    exact hosts.known
  · have length : (workspace.drop id handle).records.length = workspace.records.length :=
      List.length_modify _ _ _
    rw [length]
    exact hosts.bound
  · have own := hosts.own accepted
    rw [session]
    rw [Traces, session, key] at traces
    rcases traces with keyed | attached | gone | switched
    · exact own (.inl keyed)
    · exact own (.inr (.inl (List.mem_of_mem_filter attached)))
    · rcases List.mem_append.mp gone with there | here
      · exact own (.inr (.inr (.inl there)))
      · exact created (List.mem_singleton.mp here).symm
    · exact own (.inr (.inr (.inr switched)))

theorem created_of_taken {edit : Record → Record} {change : Session → Session}
    (known : id < workspace.sessions.length)
    (own : workspace.Traces id guest → guest ∈ (workspace.session id).created)
    (attached : ∀ session, (change session).attached = session.attached)
    (owes : guest ≠ handle → ∀ session, (change session).Owes guest → session.Owes guest)
    (created : ∀ session, session.created = (workspace.session id).created →
      guest = handle ∨ guest ∈ session.created → guest ∈ (change session).created)
    (traces : (((workspace.changeRecord handle edit).attach id handle).changeSession id
      change).Traces id guest) :
    guest ∈ ((((workspace.changeRecord handle edit).attach id handle).changeSession id
      change).session id).created := by
  have edited : id < (workspace.changeRecord handle edit).sessions.length := known
  obtain ⟨others, held, attaches⟩ := session_attach edited handle
  have taken : id < ((workspace.changeRecord handle edit).attach id handle).sessions.length := by
    rwa [length_sessions_attach]
  have session := session_changeSession_self change taken
  rw [attaches] at session
  rw [session]
  refine created _ rfl ?_
  by_cases here : guest = handle
  · exact .inl here
  · have record : (((workspace.changeRecord handle edit).attach id handle).changeSession id
        change).record guest = workspace.record guest := record_changeRecord_of_ne here
    rw [Traces, record, session, attached] at traces
    refine .inr (own ?_)
    rcases traces with keyed | there | owed
    · exact .inl keyed
    · refine .inr (.inl ((List.mem_append.mp there).elim (held guest) fun same => ?_))
      exact absurd (List.mem_singleton.mp same) here
    · have before := owes here _ owed
      exact .inr (.inr before)

theorem Hosts.settleRecord (hosts : Hosts id guest workspace) (accepted : ¬workspace.Rejected id)
    (handle : Handle) : Hosts id guest (workspace.settleRecord id handle) := by
  have settles : Steady id workspace _ := steady_settleRecord id handle workspace
  have sound : ¬(workspace.settleRecord id handle).Rejected id :=
    settles.rejected_iff.not.mpr accepted
  have length := length_records_settleRecord id handle workspace
  have own := hosts.own accepted
  refine ⟨Nat.lt_of_lt_of_le hosts.known settles.sessions, length ▸ hosts.bound, fun _ => ?_,
    fun given => absurd given sound⟩
  simp only [Workspace.settleRecord]
  split
  · refine created_of_taken hosts.known own (fun _ => rfl) (fun _ _ owed => owed) fun _ _ found => ?_
    exact List.mem_append.mpr (found.symm.imp_right List.mem_singleton.mpr)
  · rename_i before keyed
    split
    · intro traces
      have kept (record : Record) : ({ record with changes := [] } : Record).key = record.key := rfl
      refine own (traces.imp_left fun known => ?_)
      rwa [key_changeRecord kept] at known
    · refine created_of_taken hosts.known own (fun _ => rfl) (fun different session owed => ?_)
        fun session same found => ?_
      · refine owed.imp_right fun switched => ?_
        simp only at switched
        split at switched
        · exact switched
        · rw [List.map_append, List.mem_append] at switched
          exact switched.resolve_right fun here => different (List.mem_singleton.mp here)
      · rcases found with rfl | there
        · refine same ▸ own (.inl ?_)
          rw [keyed]
          exact Option.some_ne_none before
        · exact there

end Hosts

section Restoring

structure Passes (id : SessionId) (guest : Handle) (before after : Workspace) : Prop where
  sessions : after.sessions.length = before.sessions.length
  records : after.records.length = before.records.length
  values : (after.record guest).values = (before.record guest).values
  lists : id < before.sessions.length → ∃ attached,
    after.session id = { before.session id with attached } ∧
      (guest ∈ attached → guest ∈ (before.session id).attached)

instance (id : SessionId) (guest : Handle) : IsPreorder Workspace (Passes id guest) where
  refl _ := ⟨rfl, rfl, rfl, fun _ => ⟨_, rfl, fun held => held⟩⟩
  trans first second third left right := by
    refine ⟨right.sessions.trans left.sessions, right.records.trans left.records,
      right.values.trans left.values, fun known => ?_⟩
    obtain ⟨middle, same, held⟩ := left.lists known
    obtain ⟨last, same', held'⟩ := right.lists (left.sessions ▸ known)
    rw [same] at same' held'
    exact ⟨last, same', fun found => held (held' found)⟩

theorem passes_changeRecord {edit : Record → Record}
    (values : ∀ record, (edit record).values = record.values) :
    Passes id guest workspace (workspace.changeRecord handle edit) := by
  refine ⟨rfl, List.length_modify _ _ _, ?_, fun _ => ⟨_, rfl, fun held => held⟩⟩
  rw [record_changeRecord]
  split
  · rename_i found
    rw [values, found.1]
  · rfl

theorem passes_attach (different : handle ≠ guest) :
    Passes id guest workspace (workspace.attach id handle) := by
  refine ⟨length_sessions_attach _, rfl, rfl, fun known => ?_⟩
  obtain ⟨others, held, session⟩ := session_attach known handle
  refine ⟨_, session, fun found => ?_⟩
  exact (List.mem_append.mp found).elim (held guest) fun here =>
    absurd (List.mem_singleton.mp here).symm different

theorem passes_restoreKeys {left : List Handle} {rekeyed : List (Handle × Value)}
    (spared : guest ∈ rekeyed.map Prod.fst → guest ∈ left) :
    Passes id guest workspace (workspace.restoreKeys id left rekeyed) := by
  refine related_foldl_of_mem (fun entry listed middle => ?_) workspace
  have restores : Passes id guest middle (middle.changeRecord entry.1 fun record =>
      { record with key := some entry.2 }) := passes_changeRecord fun _ => rfl
  simp only
  split
  · exact restores
  · rename_i stays
    refine trans_of (Passes id guest) restores (passes_attach fun here => ?_)
    exact stays (List.contains_iff_mem.mpr (here ▸ spared (here ▸ List.mem_map_of_mem listed)))

theorem passes_restoreRemoved {left removed : List Handle} (spared : guest ∈ removed → guest ∈ left) :
    Passes id guest workspace (workspace.restoreRemoved id left removed) := by
  refine related_foldl_of_mem (fun gone listed middle => ?_) workspace
  split
  · exact refl_of (Passes id guest) middle
  · rename_i stays
    have restores : Passes id guest middle (middle.changeRecord gone fun record =>
        { record with deleted := false }) := passes_changeRecord fun _ => rfl
    refine trans_of (Passes id guest) restores (passes_attach fun here => ?_)
    exact stays (List.contains_iff_mem.mpr (here ▸ spared (here ▸ listed)))

theorem passes_forgetAll (left : List Handle) (workspace : Workspace) :
    Passes id guest workspace (workspace.forgetAll left) := by
  refine related_foldl (fun middle handle => ?_) left workspace
  exact passes_changeRecord fun _ => rfl

theorem values_expireAttached (workspace : Workspace) :
    ((workspace.expireAttached id).record guest).values = (workspace.record guest).values ∨
      guest ∈ (workspace.session id).attached ∧
        ((workspace.expireAttached id).record guest).values = [] := by
  simp only [expireAttached]
  generalize (workspace.session id).attached = handles
  induction handles generalizing workspace with
  | nil => exact .inl rfl
  | cons handle handles ih =>
      have expires : (workspace.changeRecord handle Record.expire).record guest = _ :=
        record_changeRecord handle Record.expire guest
      rw [List.foldl_cons]
      rcases ih (workspace.changeRecord handle Record.expire) with same | ⟨later, gone⟩
      · rw [expires] at same
        split at same
        · rename_i here
          exact .inr ⟨here.1 ▸ List.mem_cons_self, same⟩
        · exact .inl same
      · exact .inr ⟨List.mem_cons_of_mem _ later, gone⟩

theorem sessions_expireAttached (id : SessionId) (workspace : Workspace) :
    (workspace.expireAttached id).sessions = workspace.sessions ∧
      (workspace.expireAttached id).records.length = workspace.records.length := by
  simp only [expireAttached]
  generalize (workspace.session id).attached = handles
  induction handles generalizing workspace with
  | nil => exact ⟨rfl, rfl⟩
  | cons handle handles ih =>
      obtain ⟨sessions, length⟩ := ih (workspace.changeRecord handle Record.expire)
      exact ⟨sessions, length.trans (List.length_modify _ _ _)⟩

/-- Whether a rollback has let go of a record: the record holds what it held, unless the session knows it
without having inserted it; then the session may still know it, and it may have to be read again. -/
structure LetsGo (id : SessionId) (guest : Handle) (before after : Workspace) : Prop where
  sessions : after.sessions.length = before.sessions.length
  records : after.records.length = before.records.length
  values : (after.record guest).values = (before.record guest).values ∨
    guest ∈ (before.session id).attached ∧ guest ∉ (before.session id).created ∧
      (after.record guest).values = []
  attached : guest ∈ (after.session id).attached →
    guest ∈ (before.session id).attached ∧ guest ∉ (before.session id).created
  clear : ¬(after.session id).Owes guest

theorem letsGo_restoreRecords (known : id < workspace.sessions.length)
    (owed : (workspace.session id).Owes guest → guest ∈ (workspace.session id).created) :
    LetsGo id guest workspace (workspace.restoreRecords id) := by
  let session := workspace.session id
  let left := session.created ++ session.pending
  have owed' (owes : session.Owes guest) : guest ∈ left := List.mem_append_left _ (owed owes)
  have forgets : Passes id guest workspace (workspace.forgetAll left) := passes_forgetAll left workspace
  have forgotten : id < (workspace.forgetAll left).sessions.length := forgets.sessions ▸ known
  have emptied : (workspace.withoutNew id left).session id = { session with
      attached := session.attached.filter fun handle => !left.contains handle
      pending := [], created := [], rekeyed := [], removed := [] } := by
    rw [withoutNew, session_changeSession_self _ forgotten, Workspace.session, sessions_forgetAll,
      ← Workspace.session]
  have bare : id < (workspace.withoutNew id left).sessions.length := by
    rwa [withoutNew, length_sessions_changeSession]
  let restored := ((workspace.withoutNew id left).restoreKeys id left session.rekeyed).restoreRemoved
    id left session.removed
  have restores : Passes id guest (workspace.withoutNew id left) restored :=
    trans_of (Passes id guest) (passes_restoreKeys fun switched => owed' (.inr switched))
      (passes_restoreRemoved fun gone => owed' (.inl gone))
  have held : (restored.record guest).values = (workspace.record guest).values :=
    restores.values.trans forgets.values
  obtain ⟨attached, lists, kept⟩ := restores.lists bare
  rw [emptied] at lists kept
  have stays (found : guest ∈ (restored.session id).attached) :
      guest ∈ session.attached ∧ guest ∉ session.created := by
    rw [lists] at found
    obtain ⟨before, apart⟩ := List.mem_filter.mp (kept found)
    have outside : guest ∉ left := by simpa using apart
    exact ⟨before, fun created => outside (List.mem_append_left _ created)⟩
  obtain ⟨sessions, records⟩ := sessions_expireAttached id restored
  have same : (restored.expireAttached id).session id = restored.session id := by
    rw [Workspace.session, sessions, Workspace.session]
  have ends : workspace.restoreRecords id = restored.expireAttached id := rfl
  rw [ends]
  refine ⟨?_, ?_, ?_, ?_, ?_⟩
  · rw [sessions, restores.sessions, withoutNew, length_sessions_changeSession, forgets.sessions]
  · exact records.trans (restores.records.trans forgets.records)
  · rw [← held]
    refine (values_expireAttached restored).imp_right ?_
    rintro ⟨found, gone⟩
    exact ⟨(stays found).1, (stays found).2, gone⟩
  · rw [same]
    exact stays
  · rw [same, lists]
    rintro (gone | switched)
    · exact List.not_mem_nil gone
    · exact List.not_mem_nil switched

theorem Hosts.owed (hosts : Hosts id guest workspace) (owes : (workspace.session id).Owes guest) :
    guest ∈ (workspace.session id).created := by
  by_cases rejected : workspace.Rejected id
  · exact absurd owes (hosts.cleared rejected)
  · exact hosts.own rejected (.inr (.inr owes))

theorem restoreTable_same (id : SessionId) (workspace : Workspace) :
    (workspace.restoreTable id).sessions = workspace.sessions ∧
      (workspace.restoreTable id).records = workspace.records := by
  simp only [restoreTable]
  split <;> exact ⟨rfl, rfl⟩

theorem Hosts.letsGo (hosts : Hosts id guest workspace) (transaction : Transaction) :
    LetsGo id guest workspace
      (((workspace.restoreTable id).restoreRecords id).setTransaction id transaction) := by
  obtain ⟨sessions, records⟩ := restoreTable_same id workspace
  have session (other : SessionId) : (workspace.restoreTable id).session other =
      workspace.session other := by
    rw [Workspace.session, sessions, Workspace.session]
  have record (other : Handle) : (workspace.restoreTable id).record other = workspace.record other := by
    rw [Workspace.record, records, Workspace.record]
  have known : id < (workspace.restoreTable id).sessions.length := sessions ▸ hosts.known
  have goes : LetsGo id guest (workspace.restoreTable id)
      ((workspace.restoreTable id).restoreRecords id) := by
    refine letsGo_restoreRecords known ?_
    rw [session]
    exact hosts.owed
  have knownAfter : id < ((workspace.restoreTable id).restoreRecords id).sessions.length :=
    goes.sessions ▸ known
  have last := session_changeSession_self (fun session => { session with transaction }) knownAfter
  refine ⟨?_, ?_, ?_, ?_, ?_⟩
  · rw [setTransaction, length_sessions_changeSession, goes.sessions, sessions]
  · exact goes.records.trans (congrArg List.length records)
  · have values := goes.values
    rwa [session, record] at values
  · have attached := goes.attached
    rw [session] at attached
    rw [setTransaction, last]
    exact attached
  · rw [setTransaction, last]
    exact goes.clear

theorem Hosts.failTransaction (hosts : Hosts id guest workspace) (cause : StoreFailure)
    (duringQuery : Bool) : Hosts id guest (workspace.failTransaction id cause duringQuery) := by
  have goes := hosts.letsGo (.failed cause duringQuery)
  have rejected := rejected_failTransaction hosts.known cause duringQuery
  exact ⟨goes.sessions ▸ hosts.known, goes.records ▸ hosts.bound, fun accepted => absurd rejected accepted,
    fun _ => goes.clear⟩

/-- Whether a record holds what it held before. It has to be read again if it came back to a session that
was given up for a rejected write. -/
def Spares (id : SessionId) (guest : Handle) (before after : Workspace) : Prop :=
  (after.record guest).values = (before.record guest).values ∨
    before.Rejected id ∧ guest ∈ (before.session id).attached ∧ (after.record guest).values = []

theorem Hosts.spares_rollBack (hosts : Hosts id guest workspace) :
    Spares id guest workspace (workspace.rollBack id) := by
  simp only [Workspace.rollBack]
  split
  · exact .inl rfl
  · refine (hosts.letsGo .closed).values.imp_right ?_
    rintro ⟨attached, apart, gone⟩
    refine ⟨?_, attached, gone⟩
    by_contra accepted
    exact apart (hosts.own accepted (.inr (.inl attached)))

end Restoring

section Operations

theorem hosting_useTransaction (id : SessionId) (guest : Handle) :
    Action.Moves (Hosting id guest) (useTransaction id) := by
  intro workspace hosts
  cases ran : (useTransaction id).run workspace with
  | mk outcome after =>
      cases outcome with
      | ok _ =>
          obtain ⟨_, rfl⟩ := run_useTransaction_ok_iff.mp ran
          exact hosts.begun
      | error failure =>
          obtain ⟨_, _, rfl⟩ := run_useTransaction_error ran
          exact hosts

theorem Hosts.settleRecords {handles : List Handle} (hosts : Hosts id guest workspace)
    (accepted : ¬workspace.Rejected id) :
    Hosts id guest (handles.foldl (fun workspace handle => workspace.settleRecord id handle)
      workspace) := by
  induction handles generalizing workspace with
  | nil => exact hosts
  | cons handle handles ih =>
      have settles : Steady id workspace _ := steady_settleRecord id handle workspace
      exact ih (hosts.settleRecord accepted handle) (settles.rejected_iff.not.mpr accepted)

theorem Hosts.of_writes (hosts : Hosts id guest before) (writes : Writes before after) :
    Hosts id guest after := by
  have session : after.session id = before.session id := by
    rw [Workspace.session, writes.sessions, Workspace.session]
  exact hosts.of_same session (Nat.le_of_eq (congrArg List.length writes.sessions.symm))
    (Nat.le_of_eq writes.length.symm) (writes.key guest)

theorem hosting_flushWith (model : Model) (id : SessionId) (guest : Handle) (stamped : Option Handle)
    (duringQuery : Bool) : Action.Moves (Hosting id guest) (flushWith model id stamped duringQuery) := by
  intro workspace hosts
  simp only [flushWith]
  rw [Action.run_bind_ok (Action.run_get workspace)]
  split
  · exact hosts
  · cases used : (useTransaction id).run workspace with
    | mk outcome begun =>
        cases outcome with
        | error failure =>
            rw [Action.run_bind_error used]
            obtain ⟨_, _, rfl⟩ := run_useTransaction_error used
            exact hosts
        | ok _ =>
            have accepted := not_rejected_of_useTransaction hosts.known used
            obtain ⟨_, rfl⟩ := run_useTransaction_ok_iff.mp used
            rw [Action.run_bind_ok used, Action.run_bind_ok (Action.run_get _)]
            split
            · rename_i written wrote
              have writes := writes_writeRecords wrote
              refine (hosts.begun.of_writes writes).settleRecords ?_
              rw [Rejected, Workspace.session, writes.sessions]
              exact accepted
            · exact hosts.begun.failTransaction _ _

theorem hosting_prepareQuery (model : Model) (id : SessionId) (guest : Handle) :
    Action.Moves (Hosting id guest) (prepareQuery model id) :=
  Action.moves_bind (hosting_flushWith model id guest none true) fun _ =>
    hosting_useTransaction id guest

theorem Hosts.introduce (hosts : Hosts id guest workspace) (row : Row) :
    Hosts id guest (workspace.introduce model id row) :=
  (hosts.withRecord _).attach fun here => absurd here (Nat.ne_of_gt hosts.bound)

theorem hosting_loadRow (model : Model) (id : SessionId) (guest : Handle) (row : Row) :
    Action.Moves (Hosting id guest) (loadRow model id row) := by
  intro workspace hosts
  rw [run_loadRow]
  split
  · exact hosts.changeRecord fun _ => rfl
  · exact hosts.introduce row

theorem hosting_query (id : SessionId) (guest : Handle) (selection : Selection) :
    Action.Moves (Hosting id guest) (query id selection) := by
  refine Action.moves_bind (hosting_prepareQuery _ id guest) fun _ => Action.moves_get fun _ => ?_
  refine Action.moves_bind (Action.moves_ofStore _) fun rows => ?_
  exact Action.moves_mapM (hosting_loadRow selection.model id guest) rows

theorem hosting_countRows (id : SessionId) (guest : Handle) (counting : Counting) :
    Action.Moves (Hosting id guest) (countRows id counting) :=
  Action.moves_bind (hosting_prepareQuery _ id guest) fun _ =>
    Action.moves_get fun _ => Action.moves_ofStore _

theorem hosting_loadIdentity (model : Model) (id : SessionId) (guest : Handle) (key : Value) :
    Action.Moves (Hosting id guest) (loadIdentity model id key) := by
  refine Action.moves_bind (hosting_useTransaction id guest) fun _ => ?_
  refine Action.moves_bind (Action.moves_ofStore _) fun cell => Action.moves_get fun workspace => ?_
  split
  · exact Action.moves_bind (hosting_loadRow model id guest _) fun _ => Action.moves_pure _
  · exact Action.moves_pure none

theorem hosting_refresh (model : Model) (id : SessionId) (guest handle : Handle) :
    Action.Moves (Hosting id guest) (refresh model id handle) := by
  refine Action.moves_bind (hosting_prepareQuery model id guest) fun _ =>
    Action.moves_get fun workspace => ?_
  refine Action.moves_bind (Action.moves_ofStore _) fun cell => ?_
  split
  · refine Action.moves_modify fun middle hosts => hosts.changeRecord ?_
    exact fun _ => rfl
  · exact Action.moves_fail _

theorem keyed_of_attached? {key : Value} (found : workspace.attached? id key = some handle) :
    (workspace.record handle).key ≠ none := by
  have has := List.find?_some found
  intro keyless
  simp [Record.hasKey, keyless] at has

theorem hosts_revive (hosts : Hosts id guest workspace) (keyed : (workspace.record handle).key ≠ none) :
    Hosts id guest ((revive model id handle).run workspace).2 := by
  simp only [revive]
  cases used : (useTransaction id).run workspace with
  | mk outcome begun =>
      cases outcome with
      | error failure =>
          rw [Action.run_bind_error used]
          obtain ⟨_, _, rfl⟩ := run_useTransaction_error used
          exact hosts
      | ok _ =>
          have accepted := not_rejected_of_useTransaction hosts.known used
          obtain ⟨_, rfl⟩ := run_useTransaction_ok_iff.mp used
          rw [Action.run_bind_ok used, Action.run_bind_ok (Action.run_get _), Action.run_bind]
          simp only [Action.ofStore, Action.run_ofOutcome, record_begun]
          cases Cell.bind 1 ((workspace.record handle).key.getD .null) with
          | error failure => exact hosts.begun
          | ok cell =>
              simp only [Except.mapError]
              split
              · refine hosts.begun.changeRecord ?_
                exact fun _ => rfl
              · refine hosts.begun.drop accepted fun here => hosts.begun.own accepted (.inl ?_)
                rw [record_begun]
                exact here ▸ keyed

theorem hosting_find (model : Model) (id : SessionId) (guest : Handle) (identity : Value) :
    Action.Moves (Hosting id guest) (find model id identity) := by
  refine Action.moves_bind (Action.moves_ofStore _) fun key => ?_
  intro workspace hosts
  rw [Action.run_bind_ok (Action.run_get workspace)]
  split
  · rename_i handle found
    have keyed := keyed_of_attached? found
    split
    · have flushes := hosting_flushWith model id guest none true workspace hosts
      rw [Action.run_bind]
      cases ran : (flushBeforeQuery model id).run workspace with
      | mk outcome flushed =>
          rw [flushBeforeQuery] at ran
          rw [ran] at flushes
          cases outcome with
          | error failure => exact flushes
          | ok _ => exact hosts_revive flushes (keyed_of_flushWith ran keyed)
    · exact hosts
  · exact Action.moves_bind (hosting_flushWith model id guest none true) (fun _ =>
      hosting_loadIdentity model id guest key) workspace hosts

theorem hosting_add (model : Model) (id : SessionId) (guest handle : Handle) :
    Action.Moves (Hosting id guest) (add model id handle) := by
  intro workspace hosts
  simp only [add, Action.run_bind, Action.run_get]
  split
  · split <;> exact hosts
  · have session : (workspace.awaiting id handle).session id = { workspace.session id with
        pending := (workspace.session id).pending ++ [handle] } :=
      session_changeSession_self _ hosts.known
    have waits : Hosts id guest (workspace.awaiting id handle) := by
      refine ⟨?_, hosts.bound, ?_, ?_⟩
      · rw [awaiting, length_sessions_changeSession]
        exact hosts.known
      · rw [Rejected, Traces, session]
        exact hosts.own
      · rw [Rejected, session]
        exact hosts.cleared
    exact waits
  · rename_i key _ keyed
    split
    · exact hosts
    · split
      · exact hosts
      · refine hosts.attach fun here => .inl ?_
        rw [← here, keyed]
        exact Option.some_ne_none key

theorem hosting_foundOrNew (model : Model) (id : SessionId) (guest : Handle) (found : Option Handle) :
    Action.Moves (Hosting id guest) (foundOrNew model id found) := by
  cases found with
  | some handle => exact Action.moves_pure _
  | none =>
      refine Action.moves_bind (fun workspace hosts => hosts.withRecord _) fun handle => ?_
      exact Action.moves_bind (hosting_add model id guest handle) fun _ => Action.moves_pure _

theorem hosting_mergeTarget (model : Model) (id : SessionId) (guest : Handle) (source : Record) :
    Action.Moves (Hosting id guest) (mergeTarget model id source) := by
  have continues {choice : Action Workspace (Option Handle)} {workspace : Workspace}
      (kept : Hosts id guest (choice.run workspace).2) :
      Hosts id guest ((choice >>= foundOrNew model id).run workspace).2 := by
    rw [Action.run_bind]
    cases ran : choice.run workspace with
    | mk outcome after =>
        rw [ran] at kept
        cases outcome with
        | error failure => exact kept
        | ok found => exact hosting_foundOrNew model id guest found after kept
  intro workspace hosts
  simp only [mergeTarget]
  rw [Action.run_bind_ok (Action.run_get workspace)]
  split
  · rename_i handle attached
    split
    · exact continues (hosts_revive hosts (keyed_of_attached? attached))
    · have stays : Hosts id guest ((pure (some handle) : Action Workspace _).run workspace).2 := hosts
      exact continues stays
  · exact continues (hosting_loadIdentity model id guest _ workspace hosts)

theorem hosting_merge (model : Model) (id : SessionId) (guest handle : Handle) :
    Action.Moves (Hosting id guest) (merge model id handle) := by
  refine Action.moves_bind (hosting_flushWith model id guest none true) fun _ =>
    Action.moves_get fun workspace => ?_
  refine Action.moves_bind (hosting_mergeTarget model id guest _) fun target => ?_
  split
  · refine Action.moves_bind (Action.moves_modify fun middle hosts => hosts.changeRecord ?_)
      fun _ => Action.moves_pure _
    exact Record.key_setAll _
  · exact Action.moves_pure _

theorem hosts_erase (hosts : Hosts id guest workspace) (accepted : ¬workspace.Rejected id)
    (identity : Value) : Hosts id guest (workspace.erase id identity) := by
  -- To drop a record leaves what its session has inserted.
  have drops {handles : List Handle} {start : Workspace} (hosts : Hosts id guest start)
      (accepted : ¬start.Rejected id)
      (created : guest ∈ handles → guest ∈ (start.session id).created) :
      Hosts id guest (handles.foldl (fun workspace handle => workspace.drop id handle) start) := by
    induction handles generalizing start with
    | nil => exact hosts
    | cons handle handles ih =>
        have inserted : ((start.drop id handle).session id).created = (start.session id).created := by
          refine session_changeSession_part _ Session.created ?_ id
          exact fun _ => rfl
        refine ih (hosts.drop accepted fun here => created (here ▸ List.mem_cons_self))
          ((still_drop id handle start).rejected_iff.not.mpr accepted) fun later => ?_
        rw [inserted]
        exact created (List.mem_cons_of_mem _ later)
  have erased : Hosts id guest { workspace with
      table := workspace.table.removeWhere fun row => (rowsOf identity).holds row } :=
    hosts.of_same rfl (Nat.le_refl _) (Nat.le_refl _) rfl
  exact drops erased accepted fun gone =>
    hosts.own accepted (.inr (.inl (List.mem_of_mem_filter gone)))

theorem hosting_deleteIdentity (model : Model) (id : SessionId) (guest : Handle) (identity : Value) :
    Action.Moves (Hosting id guest) (deleteIdentity model id identity) := by
  intro workspace hosts
  rw [deleteIdentity_eq, Action.run_bind]
  have prepares := hosting_prepareQuery model id guest workspace hosts
  cases ran : (prepareQuery model id).run workspace with
  | mk outcome prepared =>
      rw [ran] at prepares
      cases outcome with
      | error failure => exact prepares
      | ok _ =>
          have accepted := accepted_prepareQuery hosts.known ran
          cases Token.checkBindings ((rowsOf identity).tokens (.adapter .sqlite) model) with
          | error failure => exact prepares
          | ok _ => exact hosts_erase prepares accepted identity

end Operations

end Workspace
end RecordStore
