import RecordStore.Proofs.OrderlyWrites

/-!
Sessions keep records orderly. Whatever an operation of a session does, and however it ends, every
record still stands to the row of its identity afterwards.
-/

namespace RecordStore
namespace Workspace

variable {model : Model} {id : SessionId} {before after workspace : Workspace} {handle : Handle}

section Restoring

theorem tidy_forgetAll (left : List Handle) (orderly : ∀ other, (workspace.record other).Orderly) :
    (∀ other, ((workspace.forgetAll left).record other).Orderly) ∧
      ∀ other, other ∉ left → (workspace.forgetAll left).record other = workspace.record other := by
  induction left generalizing workspace with
  | nil => exact ⟨orderly, fun _ _ => rfl⟩
  | cons handle left ih =>
      have forgotten : ∀ other, ((workspace.changeRecord handle Record.forget).record other).Orderly := by
        intro other
        rw [record_changeRecord]
        split
        · exact Record.orderly_forget (orderly handle)
        · exact orderly other
      obtain ⟨rest, same⟩ := ih forgotten
      refine ⟨rest, fun other apart => ?_⟩
      obtain ⟨different, later⟩ := not_or.mp (mt List.mem_cons.mpr apart)
      exact (same other later).trans (record_changeRecord_of_ne different)

theorem sessions_forgetAll (left : List Handle) (workspace : Workspace) :
    (workspace.forgetAll left).sessions = workspace.sessions := by
  induction left generalizing workspace with
  | nil => rfl
  | cons handle left ih => exact ih _

theorem tidy_restoreRemoved {left removed : List Handle} (tidy : Tidy id workspace)
    (keyed : ∀ other ∈ removed, other ∉ left → (workspace.record other).key ≠ none) :
    Tidy id (workspace.restoreRemoved id left removed) := by
  induction removed generalizing workspace with
  | nil => exact tidy
  | cons handle removed ih =>
      by_cases given : handle ∈ left
      · have skips : workspace.restoreRemoved id left (handle :: removed) =
            workspace.restoreRemoved id left removed := by
          simp [restoreRemoved, given]
        rw [skips]
        exact ih tidy fun other later => keyed other (List.mem_cons_of_mem _ later)
      · let marked := workspace.changeRecord handle fun record => { record with deleted := false }
        have known : Tidy id marked :=
          tidy.changeRecord rfl ((tidy.orderly handle).of_same rfl rfl rfl rfl)
        have keys (other : Handle) : (marked.record other).key = (workspace.record other).key := by
          rw [record_changeRecord]
          split
          · rename_i found
            rw [found.1]
          · rfl
        have attaches : workspace.restoreRemoved id left (handle :: removed) =
            (marked.attach id handle).restoreRemoved id left removed := by
          simp [restoreRemoved, given, marked]
        rw [attaches]
        refine ih (known.attach ?_) fun other later apart => ?_
        · rw [keys]
          exact keyed handle List.mem_cons_self given
        · have same : (marked.attach id handle).record other = marked.record other := rfl
          rw [same, keys]
          exact keyed other (List.mem_cons_of_mem _ later) apart

theorem Tidy.expireAttached (tidy : Tidy id workspace) : Tidy id (workspace.expireAttached id) := by
  simp only [Workspace.expireAttached]
  generalize (workspace.session id).attached = handles
  induction handles generalizing workspace with
  | nil => exact tidy
  | cons handle handles ih =>
      exact ih (tidy.changeRecord rfl (Record.orderly_expire (tidy.orderly handle)))

def withoutNew (id : SessionId) (left : List Handle) (workspace : Workspace) : Workspace :=
  (workspace.forgetAll left).changeSession id fun session => { session with
    attached := session.attached.filter fun handle => !left.contains handle
    pending := [], created := [], rekeyed := [], removed := [] }

theorem tidy_withoutNew (left : List Handle) (tidy : Tidy id workspace) :
    Tidy id (workspace.withoutNew id left) ∧ ∀ other, other ∉ left →
      (workspace.withoutNew id left).record other = workspace.record other := by
  obtain ⟨orderly, same⟩ := tidy_forgetAll left tidy.orderly
  have sessions := sessions_forgetAll left workspace
  have known : id < (workspace.forgetAll left).sessions.length := by
    rw [sessions]
    exact tidy.known
  have session : (workspace.withoutNew id left).session id = { workspace.session id with
      attached := (workspace.session id).attached.filter fun handle => !left.contains handle
      pending := [], created := [], rekeyed := [], removed := [] } := by
    rw [withoutNew, session_changeSession_self _ known, Workspace.session, sessions, Workspace.session]
  refine ⟨⟨?_, orderly, ?_, fun other held => ?_, ?_, ?_⟩, same⟩
  · rwa [withoutNew, length_sessions_changeSession]
  · rw [session]
    exact fun _ waiting => absurd waiting List.not_mem_nil
  · rw [session] at held
    obtain ⟨attached, apart⟩ := List.mem_filter.mp held
    have kept := same other (by simpa using apart)
    exact (congrArg Record.key kept).trans_ne (tidy.attached other attached)
  · rw [session]
    exact fun _ gone => absurd gone List.not_mem_nil
  · rw [session]

theorem Tidy.restoreRecords (tidy : Tidy id workspace) : Tidy id (workspace.restoreRecords id) := by
  let left := (workspace.session id).created ++ (workspace.session id).pending
  have restores : workspace.restoreRecords id = ((workspace.withoutNew id left).restoreRemoved id left
      (workspace.session id).removed).expireAttached id := by
    simp only [Workspace.restoreRecords, tidy.rekeyed, restoreKeys, List.foldl_nil]
    rfl
  obtain ⟨forgotten, same⟩ := tidy_withoutNew left tidy
  rw [restores]
  refine (tidy_restoreRemoved forgotten fun other gone apart => ?_).expireAttached
  rw [same other apart]
  exact tidy.removed other gone

theorem Tidy.failTransaction (tidy : Tidy id workspace) (cause : StoreFailure) (duringQuery : Bool) :
    Tidy id (workspace.failTransaction id cause duringQuery) :=
  tidy.restoreTable.restoreRecords.setTransaction _

theorem Tidy.rollBack (tidy : Tidy id workspace) : Tidy id (workspace.rollBack id) := by
  simp only [Workspace.rollBack]
  split
  · exact tidy
  · exact tidy.restoreTable.restoreRecords.setTransaction _

end Restoring

section Operations

theorem keeps_useTransaction (id : SessionId) : Action.Moves (Keeps id) (useTransaction id) := by
  intro workspace tidy
  cases ran : (useTransaction id).run workspace with
  | mk outcome after =>
      cases outcome with
      | ok _ =>
          obtain ⟨_, rfl⟩ := run_useTransaction_ok_iff.mp ran
          exact tidy.begun
      | error failure =>
          obtain ⟨_, _, rfl⟩ := run_useTransaction_error ran
          exact tidy

theorem Tidy.written {stamped : Option Handle} (tidy : Tidy id workspace)
    (wrote : (workspace.begun id).writeRecords model stamped (workspace.changedRecords id stamped)
      (workspace.session id).pending = .ok after) :
    Tidy id ((workspace.changedRecords id stamped ++ (workspace.session id).pending).foldl
      (fun workspace handle => workspace.settleRecord id handle) after) := by
  have length := (writes_writeRecords wrote).length
  rw [records_begun] at length
  rw [← pending_begun workspace id id] at wrote
  obtain ⟨written, ripe⟩ := ripe_of_writeRecords Tidy.familiar Tidy.of_ripens tidy.begun
    (fun other listed => by
      rw [attached_begun]
      exact (mem_changedRecords.mp listed).1) wrote
  rw [pending_begun] at ripe
  refine tidy_settleRecords written fun other listed => ⟨ripe other listed, ?_⟩
  rw [length]
  rcases List.mem_append.mp listed with changed | waiting
  · exact lt_of_keyed (tidy.attached other (mem_changedRecords.mp changed).1)
  · exact (tidy.pending other waiting).2

theorem keeps_flushWith (model : Model) (id : SessionId) (stamped : Option Handle)
    (duringQuery : Bool) : Action.Moves (Keeps id) (flushWith model id stamped duringQuery) := by
  intro workspace tidy
  simp only [flushWith]
  rw [Action.run_bind_ok (Action.run_get workspace)]
  split
  · exact tidy
  · cases used : (useTransaction id).run workspace with
    | mk outcome begun =>
        cases outcome with
        | error failure =>
            rw [Action.run_bind_error used]
            obtain ⟨_, _, rfl⟩ := run_useTransaction_error used
            exact tidy
        | ok _ =>
            obtain ⟨_, rfl⟩ := run_useTransaction_ok_iff.mp used
            rw [Action.run_bind_ok used, Action.run_bind_ok (Action.run_get _)]
            split
            · rename_i written wrote
              exact tidy.written wrote
            · exact tidy.begun.failTransaction _ _

theorem keyed_of_flushWith {stamped : Option Handle} {duringQuery : Bool}
    (ran : (flushWith model id stamped duringQuery).run before = (.ok (), after))
    (keyed : (before.record handle).key ≠ none) : (after.record handle).key ≠ none := by
  have settles (workspace : Workspace) (other : Handle)
      (keyed : (workspace.record handle).key ≠ none) :
      ((workspace.settleRecord id other).record handle).key ≠ none := by
    simp only [settleRecord]
    have sets {edit : Record → Record} {last : Workspace}
        (keeps : (edit (workspace.record other)).key ≠ none ∨
          (edit (workspace.record other)).key = (workspace.record other).key)
        (same : last.records = (workspace.changeRecord other edit).records) :
        (last.record handle).key ≠ none := by
      rw [Workspace.record, same, ← Workspace.record, record_changeRecord]
      split
      · rename_i found
        rcases keeps with known | kept
        · exact known
        · rw [kept, ← found.1]
          exact keyed
      · exact keyed
    split
    · exact sets (.inl (Option.some_ne_none _)) rfl
    · split
      · exact sets (.inr rfl) rfl
      · exact sets (.inl (Option.some_ne_none _)) rfl
  rcases flushWith_ok ran with ⟨_, _, rfl⟩ | ⟨written, wrote, rfl⟩
  · exact keyed
  · have start : (written.record handle).key ≠ none := by
      rw [(writes_writeRecords wrote).key, record_begun]
      exact keyed
    generalize before.changedRecords id stamped ++ (before.session id).pending = handles
    clear ran wrote
    induction handles generalizing written with
    | nil => exact start
    | cons other handles ih => exact ih _ (settles written other start)

theorem keeps_prepareQuery (model : Model) (id : SessionId) :
    Action.Moves (Keeps id) (prepareQuery model id) :=
  Action.moves_bind (keeps_flushWith model id none true) fun _ => keeps_useTransaction id

theorem Tidy.introduce {row : Row} (tidy : Tidy id workspace) :
    Tidy id (workspace.introduce model id row) := by
  have orderly : (Record.ofRow model row).Orderly :=
    ⟨row.distinct_values model, .of_unchanged row.id rfl (row.lookup_identity model) rfl⟩
  refine (tidy.withRecord orderly).attach ?_
  rw [record_withRecord, if_pos rfl]
  exact Option.some_ne_none _

theorem keeps_loadRow (model : Model) (id : SessionId) (row : Row) :
    Action.Moves (Keeps id) (loadRow model id row) := by
  intro workspace tidy
  rw [run_loadRow]
  split
  · rename_i handle found
    have keyed := key_of_attached? (tidy.orderly handle) (.inr ⟨_, rfl⟩) found
    exact tidy.changeRecord rfl (Record.orderly_fill (tidy.orderly handle) keyed)
  · exact tidy.introduce

theorem keeps_query (id : SessionId) (selection : Selection) :
    Action.Moves (Keeps id) (query id selection) := by
  refine Action.moves_bind (keeps_prepareQuery _ id) fun _ => Action.moves_get fun _ => ?_
  refine Action.moves_bind (Action.moves_ofStore _) fun rows => ?_
  exact Action.moves_mapM (keeps_loadRow selection.model id) rows

theorem keeps_countRows (id : SessionId) (counting : Counting) :
    Action.Moves (Keeps id) (countRows id counting) :=
  Action.moves_bind (keeps_prepareQuery _ id) fun _ =>
    Action.moves_get fun _ => Action.moves_ofStore _

theorem keeps_loadIdentity (model : Model) (id : SessionId) (key : Value) :
    Action.Moves (Keeps id) (loadIdentity model id key) := by
  refine Action.moves_bind (keeps_useTransaction id) fun _ => ?_
  refine Action.moves_bind (Action.moves_ofStore _) fun cell => Action.moves_get fun workspace => ?_
  split
  · exact Action.moves_bind (keeps_loadRow model id _) fun _ => Action.moves_pure _
  · exact Action.moves_pure none

theorem keeps_refresh (model : Model) (id : SessionId) (handle : Handle) :
    Action.Moves (Keeps id) (refresh model id handle) := by
  refine Action.moves_bind (keeps_prepareQuery model id) fun _ => ?_
  intro workspace tidy
  rw [Action.run_bind_ok (Action.run_get workspace), Action.run_bind]
  simp only [Action.ofStore, Action.run_ofOutcome]
  cases binds : Cell.bind 1 ((workspace.record handle).key.getD .null) with
  | error failure => exact tidy
  | ok cell =>
      simp only [Except.mapError]
      split
      · rename_i row located
        have keyed := key_of_located (tidy.orderly handle) binds located
        refine tidy.changeRecord rfl (Record.orderly_load fun key held => ?_)
        exact Option.some.inj (held.symm.trans keyed)
      · exact tidy

theorem tidy_revive (tidy : Tidy id workspace) (keyed : (workspace.record handle).key ≠ none) :
    Tidy id ((revive model id handle).run workspace).2 := by
  simp only [revive]
  cases used : (useTransaction id).run workspace with
  | mk outcome begun =>
      cases outcome with
      | error failure =>
          rw [Action.run_bind_error used]
          obtain ⟨_, _, rfl⟩ := run_useTransaction_error used
          exact tidy
      | ok _ =>
          obtain ⟨_, rfl⟩ := run_useTransaction_ok_iff.mp used
          rw [Action.run_bind_ok used, Action.run_bind_ok (Action.run_get _), Action.run_bind]
          simp only [Action.ofStore, Action.run_ofOutcome, record_begun]
          cases binds : Cell.bind 1 ((workspace.record handle).key.getD .null) with
          | error failure => exact tidy.begun
          | ok cell =>
              simp only [Except.mapError]
              split
              · rename_i row located
                have key := key_of_located (tidy.orderly handle) binds located
                refine tidy.begun.changeRecord rfl ?_
                rw [record_begun]
                exact Record.orderly_fill (tidy.orderly handle) key
              · refine tidy.begun.drop ?_
                rwa [record_begun]

theorem keeps_find (model : Model) (id : SessionId) (identity : Value) :
    Action.Moves (Keeps id) (find model id identity) := by
  refine Action.moves_bind (Action.moves_ofStore _) fun key => ?_
  intro workspace tidy
  rw [Action.run_bind_ok (Action.run_get workspace)]
  split
  · rename_i handle found
    have keyed := tidy.attached handle (List.mem_of_find?_eq_some found)
    split
    · have flushes := keeps_flushWith model id none true workspace tidy
      cases ran : (flushBeforeQuery model id).run workspace with
      | mk outcome flushed =>
          rw [flushBeforeQuery] at ran
          rw [ran] at flushes
          cases outcome with
          | error failure =>
              rw [flushBeforeQuery, Action.run_bind_error ran]
              exact flushes
          | ok _ =>
              rw [flushBeforeQuery, Action.run_bind_ok ran]
              exact tidy_revive flushes (keyed_of_flushWith ran keyed)
    · exact tidy
  · exact Action.moves_bind (keeps_flushWith model id none true) (fun _ =>
      keeps_loadIdentity model id key) workspace tidy

theorem tidy_add (model : Model) (tidy : Tidy id workspace) (bound : handle < workspace.records.length) :
    Tidy id ((add model id handle).run workspace).2 := by
  simp only [add, Action.run_bind, Action.run_get]
  split
  · split
    · exact tidy
    · exact tidy
  · rename_i keyless
    have session : (workspace.awaiting id handle).session id = { workspace.session id with
        pending := (workspace.session id).pending ++ [handle] } :=
      session_changeSession_self _ tidy.known
    have added : Tidy id (workspace.awaiting id handle) := by
      refine ⟨?_, tidy.orderly, fun other waiting => ?_, fun other held => ?_, fun other gone => ?_, ?_⟩
      · rw [awaiting, length_sessions_changeSession]
        exact tidy.known
      · rw [session] at waiting
        rcases List.mem_append.mp waiting with before | here
        · exact tidy.pending other before
        · obtain rfl := List.mem_singleton.mp here
          exact ⟨keyless, bound⟩
      · rw [session] at held
        exact tidy.attached other held
      · rw [session] at gone
        exact tidy.removed other gone
      · rw [session]
        exact tidy.rekeyed
    exact added
  · rename_i key _ keyed
    split
    · exact tidy
    · split
      · exact tidy
      · refine tidy.attach ?_
        rw [keyed]
        exact Option.some_ne_none _

end Operations

section Merging

def mergeKey (source : Record) : Value :=
  source.key.getD ((source.get? Attribute.identity.name).getD .null)

theorem mergeKey_admits {source : Record} (orderly : source.Orderly) :
    (mergeKey source = .null ∨ ∃ number, mergeKey source = .integer number) ∧
      ∀ value, (Attribute.identity.name, value) ∈ source.values →
        value = .null ∨ value = mergeKey source ∧ ∃ number, value = .integer number := by
  have held {value : Value} (listed : (Attribute.identity.name, value) ∈ source.values) :
      source.get? Attribute.identity.name = some value := lookup_of_mem orderly.distinct listed
  cases orderly.stands with
  | unknown keyless identity =>
      have merged : mergeKey source = (source.get? Attribute.identity.name).getD .null := by
        simp [mergeKey, keyless]
      have isOwn {value : Value} (own : source.get? Attribute.identity.name = some value) :
          value = .null ∨ ∃ number, value = .integer number := by
        cases value with
        | null => exact .inl rfl
        | _ => exact .inr (identity _ (by rw [Record.sentIdentity?, own]))
      refine ⟨?_, fun value listed => ?_⟩
      · rw [merged]
        cases own : source.get? Attribute.identity.name with
        | none => exact .inl rfl
        | some value => exact isOwn own
      · rw [merged, held listed]
        exact (isOwn (held listed)).imp_right fun isInteger => ⟨rfl, isInteger⟩
  | loaded number keyed own _ =>
      have merged : mergeKey source = .integer number := by simp [mergeKey, keyed]
      refine ⟨.inr ⟨number, merged⟩, fun value listed => .inr ?_⟩
      obtain rfl := Option.some.inj ((held listed).symm.trans own)
      exact ⟨merged.symm, number, rfl⟩
  | cleared number keyed own _ =>
      refine ⟨.inr ⟨number, by simp [mergeKey, keyed]⟩, fun value listed => .inl ?_⟩
      exact Option.some.inj ((held listed).symm.trans own)
  | lost number keyed missing _ _ =>
      refine ⟨.inr ⟨number, by simp [mergeKey, keyed]⟩, fun value listed => ?_⟩
      cases missing.symm.trans (held listed)

/-- Whether a record is one to merge into by an identity: it holds its identity, and the store knows it
under the given one if it knows it. -/
structure Targets (key : Value) (target : Handle) (workspace : Workspace) : Prop where
  present : (workspace.record target).Present
  known : (workspace.record target).key = none ∨ (workspace.record target).key = some key

theorem targets_of_loadRow {row : Row} (tidy : Tidy id before)
    (ran : (loadRow model id row).run before = (.ok handle, after)) :
    Targets (.integer row.id) handle after := by
  rw [run_loadRow] at ran
  split at ran
  · rename_i other found
    obtain ⟨rfl, rfl⟩ := Action.run_pure_ok_iff.mp ran
    have orderly := tidy.orderly other
    have keyed := key_of_attached? orderly (.inr ⟨_, rfl⟩) found
    have bound := lt_of_key_eq keyed
    constructor
    · rw [record_changeRecord_self bound]
      exact Record.present_fill keyed orderly
    · rw [record_changeRecord_self bound]
      exact .inr keyed
  · obtain ⟨rfl, rfl⟩ := Action.run_pure_ok_iff.mp ran
    constructor
    · rw [record_introduce, if_pos rfl]
      refine .inr ?_
      rw [Record.get?, Record.ofRow, row.lookup_identity model]
      rfl
    · rw [record_introduce, if_pos rfl]
      exact .inr rfl

theorem targets_of_loadIdentity {key : Value} {found : Handle} (tidy : Tidy id before)
    (isId : key = .null ∨ ∃ number, key = .integer number)
    (ran : (loadIdentity model id key).run before = (.ok (some found), after)) :
    Targets key found after := by
  obtain ⟨_, begun, begins, ran⟩ := Action.run_bind_ok_iff.mp ran
  obtain ⟨_, rfl⟩ := run_useTransaction_ok_iff.mp begins
  obtain ⟨cell, middle, binds, ran⟩ := Action.run_bind_ok_iff.mp ran
  obtain ⟨bound, rfl⟩ := Action.run_ofStore_ok_iff.mp binds
  rw [Action.run_bind_ok (Action.run_get _)] at ran
  split at ran
  · rename_i row located
    obtain ⟨handle, loaded, loads, last⟩ := Action.run_bind_ok_iff.mp ran
    obtain ⟨same, rfl⟩ := Action.run_pure_ok_iff.mp last
    obtain rfl := Option.some.inj same
    have own : key = .integer row.id := by
      rcases isId with rfl | ⟨number, rfl⟩
      · obtain rfl : Cell.null = cell := Except.ok.inj bound
        rw [locate?_null] at located
        cases located
      · obtain ⟨rfl, _⟩ := Cell.bind_integer bound
        rw [Table.locate?_integer] at located
        rw [(Table.find?_eq_some_iff.mp located).2]
    rw [own]
    exact targets_of_loadRow tidy.begun loads
  · cases ran

theorem targets_of_revive {key : Value} {found : Handle} (tidy : Tidy id before)
    (keyed : (before.record handle).key = some key)
    (ran : (revive model id handle).run before = (.ok (some found), after)) :
    Targets key found after := by
  obtain ⟨_, begun, begins, ran⟩ := Action.run_bind_ok_iff.mp ran
  obtain ⟨_, rfl⟩ := run_useTransaction_ok_iff.mp begins
  rw [Action.run_bind_ok (Action.run_get _)] at ran
  obtain ⟨cell, middle, binds, ran⟩ := Action.run_bind_ok_iff.mp ran
  obtain ⟨bound, rfl⟩ := Action.run_ofStore_ok_iff.mp binds
  rw [record_begun] at bound
  split at ran
  · rename_i row located
    obtain ⟨_, filled, fills, last⟩ := Action.run_bind_ok_iff.mp ran
    obtain ⟨_, rfl⟩ := Prod.mk.inj fills
    obtain ⟨same, rfl⟩ := Action.run_pure_ok_iff.mp last
    obtain rfl := Option.some.inj same
    have orderly := tidy.orderly handle
    have own := key_of_located orderly bound located
    have inRange : handle < (before.begun id).records.length := by
      rw [records_begun]
      exact lt_of_key_eq keyed
    constructor
    · rw [record_changeRecord_self inRange, record_begun]
      exact Record.present_fill own orderly
    · rw [record_changeRecord_self inRange, record_begun]
      exact .inr keyed
  · obtain ⟨_, dropped, drops, last⟩ := Action.run_bind_ok_iff.mp ran
    cases (Prod.mk.inj last).1

theorem records_add (model : Model) (id : SessionId) (handle : Handle) (workspace : Workspace) :
    ((add model id handle).run workspace).2.records = workspace.records := by
  simp only [add, Action.run_bind, Action.run_get]
  split
  · split <;> rfl
  · rfl
  · split
    · rfl
    · split <;> rfl

def Chooses (id : SessionId) (key : Value) (ended : Except Failure Handle × Workspace) : Prop :=
  Tidy id ended.2 ∧ ∀ target, ended.1 = .ok target → Targets key target ended.2

theorem chooses_foundOrNew {key : Value} {found : Option Handle} (tidy : Tidy id workspace)
    (targets : ∀ target ∈ found, Targets key target workspace) :
    Chooses id key ((foundOrNew model id found).run workspace) := by
  cases found with
  | some handle =>
      refine ⟨tidy, fun target same => ?_⟩
      obtain rfl := Except.ok.inj same
      exact targets handle rfl
  | none =>
      let fresh := workspace.withRecord { values := [] }
      have blank : ({ values := [] } : Record).Orderly :=
        ⟨List.nodup_nil, .unknown rfl fun _ sent => by cases sent⟩
      have bound : workspace.records.length < fresh.records.length := by
        simp [fresh, withRecord]
      have added := tidy_add model (tidy.withRecord blank) bound
      have records := records_add model id workspace.records.length fresh
      have adds : (addRecord { values := [] }).run workspace = (.ok workspace.records.length, fresh) :=
        rfl
      rw [foundOrNew, Action.run_bind_ok adds]
      cases ran : (add model id workspace.records.length).run fresh with
      | mk outcome after =>
          rw [ran] at added records
          cases outcome with
          | error failure =>
              rw [Action.run_bind_error ran]
              exact ⟨added, fun target same => by cases same⟩
          | ok _ =>
              rw [Action.run_bind_ok ran]
              refine ⟨added, fun target same => ?_⟩
              obtain rfl := Except.ok.inj same
              have record : after.record workspace.records.length = { values := [] } := by
                rw [Workspace.record, records, ← Workspace.record, record_withRecord, if_pos rfl]
              constructor
              · exact .inl (congrArg Record.key record)
              · exact .inl (congrArg Record.key record)

theorem chooses_mergeTarget (model : Model) {source : Record} (tidy : Tidy id workspace)
    (orderly : source.Orderly) :
    Chooses id (mergeKey source) ((mergeTarget model id source).run workspace) := by
  obtain ⟨isId, _⟩ := mergeKey_admits orderly
  -- A known record may be found in three ways; what follows is the same for all of them.
  have continues (choice : Action Workspace (Option Handle))
      (kept : Tidy id (choice.run workspace).2)
      (found : ∀ target after, choice.run workspace = (.ok (some target), after) →
        Targets (mergeKey source) target after) :
      Chooses id (mergeKey source) ((choice >>= foundOrNew model id).run workspace) := by
    cases ran : choice.run workspace with
    | mk outcome after =>
        rw [ran] at kept
        cases outcome with
        | error failure =>
            rw [Action.run_bind_error ran]
            exact ⟨kept, fun target same => by cases same⟩
        | ok known =>
            rw [Action.run_bind_ok ran]
            refine chooses_foundOrNew kept fun target given => found target after ?_
            rw [ran, Option.mem_def.mp given]
  simp only [mergeTarget]
  rw [Action.run_bind_ok (Action.run_get workspace)]
  split
  · rename_i handle attached
    have keyed := tidy.attached handle (List.mem_of_find?_eq_some attached)
    have orderly := tidy.orderly handle
    have own : (workspace.record handle).key = some (mergeKey source) :=
      key_of_attached? orderly isId attached
    split
    · exact continues _ (tidy_revive tidy keyed) fun target after ran => targets_of_revive tidy own ran
    · rename_i fresh
      refine continues (pure (some handle)) tidy fun target after ran => ?_
      obtain ⟨same, rfl⟩ := Action.run_pure_ok_iff.mp ran
      obtain rfl := Option.some.inj same
      exact ⟨orderly.present (Bool.not_eq_true _ ▸ fresh), .inr own⟩
  · exact continues _ (keeps_loadIdentity model id _ workspace tidy) fun target after ran =>
      targets_of_loadIdentity tidy isId ran

theorem keeps_merge (model : Model) (id : SessionId) (handle : Handle) :
    Action.Moves (Keeps id) (merge model id handle) := by
  refine Action.moves_bind (keeps_flushWith model id none true) fun _ => ?_
  intro workspace tidy
  rw [Action.run_bind_ok (Action.run_get workspace)]
  have orderly := tidy.orderly handle
  obtain ⟨kept, targets⟩ := chooses_mergeTarget model tidy orderly
  obtain ⟨_, admits⟩ := mergeKey_admits orderly
  cases ran : (mergeTarget model id (workspace.record handle)).run workspace with
  | mk outcome middle =>
      rw [ran] at kept targets
      cases outcome with
      | error failure =>
          rw [Action.run_bind_error ran]
          exact kept
      | ok target =>
          rw [Action.run_bind_ok ran]
          obtain ⟨present, known⟩ := targets target rfl
          split
          · refine kept.changeRecord (Record.key_setAll _ _) ?_
            refine Record.orderly_setAll (kept.orderly target) present fun value listed => ?_
            rcases admits value listed with null | ⟨own, number, isInteger⟩
            · exact .inl null
            · refine .inr ⟨number, isInteger, fun key held => ?_⟩
              rcases known with keyless | keyed
              · rw [keyless] at held
                cases held
              · rw [← Option.some.inj (keyed.symm.trans held), ← own, isInteger]
          · exact kept

end Merging

theorem tidy_erase (identity : Value) (tidy : Tidy id workspace) :
    Tidy id (workspace.erase id identity) := by
  -- To drop a record leaves the identities of the ones that are dropped after it.
  have drops {handles : List Handle} {start : Workspace} (tidy : Tidy id start)
      (keyed : ∀ handle ∈ handles, (start.record handle).key ≠ none) :
      Tidy id (handles.foldl (fun workspace handle => workspace.drop id handle) start) := by
    induction handles generalizing start with
    | nil => exact tidy
    | cons handle handles ih =>
        refine ih (tidy.drop (keyed handle List.mem_cons_self)) fun other later => ?_
        have known := keyed other (List.mem_cons_of_mem _ later)
        have same : ((start.drop id handle).record other).key = (start.record other).key := by
          rw [Workspace.record, drop, records_changeSession, ← Workspace.record, record_changeRecord]
          split
          · rename_i found
            rw [found.1]
          · rfl
        rwa [same]
  refine drops (tidy.withTable _) fun handle gone => ?_
  exact tidy.attached handle (List.mem_filter.mp gone).1

theorem keeps_deleteIdentity (model : Model) (id : SessionId) (identity : Value) :
    Action.Moves (Keeps id) (deleteIdentity model id identity) := by
  rw [deleteIdentity_eq]
  refine Action.moves_bind (keeps_prepareQuery model id) fun _ => ?_
  refine Action.moves_bind (Action.moves_ofStore _) fun _ => Action.moves_modify ?_
  exact fun workspace tidy => tidy_erase identity tidy

end Workspace
end RecordStore
