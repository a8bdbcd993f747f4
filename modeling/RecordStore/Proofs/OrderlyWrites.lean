import RecordStore.Proofs.OrderlyRecords
import RecordStore.Proofs.SavedRecords

/-!
Writing keeps records orderly. A session that is tidy knows its records by their identities; every
record that it writes holds the identity under which it is then settled.
-/

namespace RecordStore
namespace Workspace

/-- Whether all records are orderly, and a session knows those that it is to insert as new ones and
all others by their identity. -/
structure Tidy (id : SessionId) (workspace : Workspace) : Prop where
  known : id < workspace.sessions.length
  orderly : ∀ handle, (workspace.record handle).Orderly
  pending : ∀ handle ∈ (workspace.session id).pending,
    (workspace.record handle).key = none ∧ handle < workspace.records.length
  attached : ∀ handle ∈ (workspace.session id).attached, (workspace.record handle).key ≠ none
  removed : ∀ handle ∈ (workspace.session id).removed, (workspace.record handle).key ≠ none
  rekeyed : (workspace.session id).rekeyed = []

structure Familiar (id : SessionId) (workspace : Workspace) : Prop where
  known : id < workspace.sessions.length
  pending : ∀ handle ∈ (workspace.session id).pending, (workspace.record handle).Orderly ∧
    (workspace.record handle).key = none ∧ handle < workspace.records.length
  attached : ∀ handle ∈ (workspace.session id).attached, (workspace.record handle).Orderly ∧
    (workspace.record handle).key ≠ none

theorem Tidy.familiar {id : SessionId} {workspace : Workspace} (tidy : Tidy id workspace) :
    Familiar id workspace where
  known := tidy.known
  pending handle waiting := ⟨tidy.orderly handle, tidy.pending handle waiting⟩
  attached handle held := ⟨tidy.orderly handle, tidy.attached handle held⟩

def Keeps (id : SessionId) (before after : Workspace) : Prop := Tidy id before → Tidy id after

instance (id : SessionId) : IsPreorder Workspace (Keeps id) where
  refl _ tidy := tidy
  trans _ _ _ left right tidy := right (left tidy)

variable {model : Model} {id : SessionId} {before after workspace : Workspace} {handle : Handle}

theorem lt_of_keyed (keyed : (workspace.record handle).key ≠ none) :
    handle < workspace.records.length := by
  refine Nat.not_le.mp fun unknown => keyed ?_
  rw [record_of_le unknown]
  rfl

theorem lt_of_key_eq {key : Value} (keyed : (workspace.record handle).key = some key) :
    handle < workspace.records.length := by
  refine lt_of_keyed ?_
  rw [keyed]
  exact Option.some_ne_none key

section Tidy

theorem Tidy.of_lists (tidy : Tidy id before) (records : after.records = before.records)
    (known : after.sessions.length = before.sessions.length)
    (pending : ∀ other ∈ (after.session id).pending, other ∈ (before.session id).pending)
    (attached : ∀ other ∈ (after.session id).attached,
      (before.record other).key ≠ none ∨ other ∈ (before.session id).attached)
    (removed : ∀ other ∈ (after.session id).removed,
      (before.record other).key ≠ none ∨ other ∈ (before.session id).removed)
    (rekeyed : (after.session id).rekeyed = []) : Tidy id after := by
  have record (other : Handle) : after.record other = before.record other := by
    rw [Workspace.record, records, Workspace.record]
  refine ⟨known ▸ tidy.known, fun other => ?_, fun other waiting => ?_, fun other held => ?_,
    fun other gone => ?_, rekeyed⟩
  · rw [record]
    exact tidy.orderly other
  · rw [record, records]
    exact tidy.pending other (pending other waiting)
  · rw [record]
    exact (attached other held).elim (fun keyed => keyed) (tidy.attached other)
  · rw [record]
    exact (removed other gone).elim (fun keyed => keyed) (tidy.removed other)

theorem Tidy.changeRecord {edit : Record → Record} (tidy : Tidy id workspace)
    (key : (edit (workspace.record handle)).key = (workspace.record handle).key)
    (orderly : (edit (workspace.record handle)).Orderly) :
    Tidy id (workspace.changeRecord handle edit) := by
  have sameKey (other : Handle) : ((workspace.changeRecord handle edit).record other).key =
      (workspace.record other).key := by
    rw [record_changeRecord]
    split
    · rename_i found
      rw [key, found.1]
    · rfl
  have length : (workspace.changeRecord handle edit).records.length = workspace.records.length :=
    List.length_modify _ _ _
  refine ⟨tidy.known, fun other => ?_, fun other waiting => ?_, fun other held => ?_,
    fun other gone => ?_, tidy.rekeyed⟩
  · rw [record_changeRecord]
    split
    · exact orderly
    · exact tidy.orderly other
  · rw [sameKey, length]
    exact tidy.pending other waiting
  · rw [sameKey]
    exact tidy.attached other held
  · rw [sameKey]
    exact tidy.removed other gone

theorem Tidy.withRecord {record : Record} (tidy : Tidy id workspace) (orderly : record.Orderly) :
    Tidy id (workspace.withRecord record) := by
  have same {other : Handle} (bound : other < workspace.records.length) :
      (workspace.withRecord record).record other = workspace.record other := by
    rw [record_withRecord, if_neg (Nat.ne_of_lt bound)]
  refine ⟨tidy.known, fun other => ?_, fun other waiting => ?_, fun other held => ?_,
    fun other gone => ?_, tidy.rekeyed⟩
  · rw [record_withRecord]
    split
    · exact orderly
    · exact tidy.orderly other
  · obtain ⟨keyless, bound⟩ := tidy.pending other waiting
    refine ⟨by rw [same bound]; exact keyless, ?_⟩
    have longer : (workspace.withRecord record).records.length = workspace.records.length + 1 :=
      List.length_append
    rw [longer]
    exact Nat.lt_succ_of_lt bound
  · have keyed := tidy.attached other held
    rw [same (lt_of_keyed keyed)]
    exact keyed
  · have keyed := tidy.removed other gone
    rw [same (lt_of_keyed keyed)]
    exact keyed

theorem Tidy.attach (tidy : Tidy id workspace) (keyed : (workspace.record handle).key ≠ none) :
    Tidy id (workspace.attach id handle) := by
  refine tidy.of_lists rfl (length_sessions_attach _) (fun other waiting => ?_)
    (fun other held => ?_) (fun other gone => ?_) ?_
  · rwa [pending_attach] at waiting
  · rcases mem_attached_attach handle tidy.known held with rfl | before
    · exact .inl keyed
    · exact .inr before
  · refine .inr ?_
    rwa [Workspace.attach, session_changeSession_self _ tidy.known] at gone
  · rw [Workspace.attach, session_changeSession_self _ tidy.known]
    exact tidy.rekeyed

theorem Tidy.begun (tidy : Tidy id workspace) : Tidy id (workspace.begun id) := by
  have part {α : Type} (part : Session → α)
      (kept : ∀ session transaction, part { session with transaction } = part session) :
      part ((workspace.begun id).session id) = part (workspace.session id) :=
    session_begun_part workspace id part kept id
  have removed := part Session.removed fun _ _ => rfl
  have rekeyed := part Session.rekeyed fun _ _ => rfl
  refine tidy.of_lists (records_begun workspace id) (length_sessions_begun workspace id)
    (fun other waiting => ?_) (fun other held => ?_) (fun other gone => ?_) (rekeyed.trans tidy.rekeyed)
  · rwa [pending_begun] at waiting
  · rw [attached_begun] at held
    exact .inr held
  · rw [removed] at gone
    exact .inr gone

theorem Tidy.withTable (tidy : Tidy id workspace) (table : Table) :
    Tidy id { workspace with table } :=
  tidy.of_lists rfl rfl (fun _ waiting => waiting) (fun _ held => .inr held) (fun _ gone => .inr gone)
    tidy.rekeyed

theorem Tidy.setTransaction (tidy : Tidy id workspace) (transaction : Transaction) :
    Tidy id (workspace.setTransaction id transaction) := by
  have session : (workspace.setTransaction id transaction).session id =
      { workspace.session id with transaction } := session_changeSession_self _ tidy.known
  refine tidy.of_lists rfl (length_sessions_changeSession _ _ _) ?_ ?_ ?_ ?_
  · rw [session]
    exact fun _ waiting => waiting
  · rw [session]
    exact fun _ held => .inr held
  · rw [session]
    exact fun _ gone => .inr gone
  · rw [session]
    exact tidy.rekeyed

theorem Tidy.restoreTable (tidy : Tidy id workspace) : Tidy id (workspace.restoreTable id) := by
  simp only [Workspace.restoreTable]
  split
  · exact tidy.withTable _
  · exact tidy

theorem Tidy.drop (tidy : Tidy id workspace) (keyed : (workspace.record handle).key ≠ none) :
    Tidy id (workspace.drop id handle) := by
  have marked : Tidy id (workspace.changeRecord handle fun record =>
      { record with deleted := true }) :=
    tidy.changeRecord rfl ((tidy.orderly handle).of_same rfl rfl rfl rfl)
  have session := session_changeSession_self (fun session : Session => { session with
    attached := session.attached.filter fun other => other != handle
    removed := session.removed ++ [handle] }) marked.known
  refine marked.of_lists rfl (length_sessions_changeSession _ _ _) ?_ ?_ ?_ ?_
  · rw [Workspace.drop, session]
    exact fun _ waiting => waiting
  · rw [Workspace.drop, session]
    exact fun _ held => .inr (List.mem_filter.mp held).1
  · rw [Workspace.drop, session]
    intro other gone
    rcases List.mem_append.mp gone with before | same
    · exact .inr before
    · obtain rfl := List.mem_singleton.mp same
      refine .inl ?_
      rw [record_changeRecord, if_pos ⟨rfl, lt_of_keyed keyed⟩]
      exact keyed
  · rw [Workspace.drop, session]
    exact marked.rekeyed

end Tidy

section Rows

theorem key_of_located {record : Record} {table : Table} {cell : Cell} {row : Row}
    (orderly : record.Orderly) (binds : Cell.bind 1 (record.key.getD .null) = .ok cell)
    (located : table.locate? cell = some row) : record.key = some (.integer row.id) := by
  cases keyed : record.key with
  | none =>
      rw [keyed] at binds
      obtain rfl : Cell.null = cell := Except.ok.inj binds
      rw [locate?_null] at located
      cases located
  | some key =>
      obtain ⟨number, rfl⟩ := orderly.key_isInteger keyed
      rw [keyed] at binds
      obtain ⟨rfl, _⟩ := Cell.bind_integer binds
      rw [Table.locate?_integer] at located
      rw [(Table.find?_eq_some_iff.mp located).2]

theorem same_integer_iff (left right : Int) :
    (Value.integer left).same (.integer right) = true ↔ left = right := by
  simp [Value.same, Value.sameScalar, Value.number?, ExactNumber.equals, ExactNumber.ofInt]

theorem key_of_attached? {key : Value} (orderly : (workspace.record handle).Orderly)
    (isId : key = .null ∨ ∃ number, key = .integer number)
    (found : workspace.attached? id key = some handle) : (workspace.record handle).key = some key := by
  have hasKey := List.find?_some found
  cases keyed : (workspace.record handle).key with
  | none => simp [Record.hasKey, keyed] at hasKey
  | some held =>
      obtain ⟨number, rfl⟩ := orderly.key_isInteger keyed
      simp only [Record.hasKey, keyed] at hasKey
      rcases isId with rfl | ⟨other, rfl⟩
      · simp [Value.same, Value.sameScalar, Value.number?] at hasKey
      · rw [(same_integer_iff number other).mp hasKey]

end Rows

section Writes

structure Ripens (handle : Handle) (before after : Workspace) : Prop extends Writes before after where
  orderly : (after.record handle).Orderly
  ripe : (after.record handle).Ripe
  others : ∀ other, other ≠ handle → after.record other = before.record other

theorem Tidy.of_ripens (tidy : Tidy id before) (ripens : Ripens handle before after) : Tidy id after := by
  have session : after.session id = before.session id := by
    rw [Workspace.session, ripens.sessions, Workspace.session]
  refine ⟨ripens.sessions ▸ tidy.known, fun other => ?_, fun other waiting => ?_, fun other held => ?_,
    fun other gone => ?_, ?_⟩
  · by_cases same : other = handle
    · exact same ▸ ripens.orderly
    · exact ripens.others other same ▸ tidy.orderly other
  · rw [ripens.key, ripens.length]
    exact tidy.pending other (session ▸ waiting)
  · rw [ripens.key]
    exact tidy.attached other (session ▸ held)
  · rw [ripens.key]
    exact tidy.removed other (session ▸ gone)
  · rw [session]
    exact tidy.rekeyed

theorem Familiar.of_ripens (familiar : Familiar id before) (ripens : Ripens handle before after) :
    Familiar id after := by
  have session : after.session id = before.session id := by
    rw [Workspace.session, ripens.sessions, Workspace.session]
  have orderly {other : Handle} (was : (before.record other).Orderly) : (after.record other).Orderly := by
    by_cases same : other = handle
    · exact same ▸ ripens.orderly
    · exact ripens.others other same ▸ was
  refine ⟨ripens.sessions ▸ familiar.known, fun other waiting => ?_, fun other held => ?_⟩
  · obtain ⟨was, keyless, bound⟩ := familiar.pending other (session ▸ waiting)
    exact ⟨orderly was, (ripens.key other).trans keyless, ripens.length ▸ bound⟩
  · obtain ⟨was, keyed⟩ := familiar.attached other (session ▸ held)
    exact ⟨orderly was, (ripens.key other).symm ▸ keyed⟩

theorem record_changeRecord_of_ne {edit : Record → Record} {other : Handle} (different : other ≠ handle) :
    (workspace.changeRecord handle edit).record other = workspace.record other := by
  rw [record_changeRecord, if_neg fun same => different same.1]

theorem record_changeRecord_self {edit : Record → Record} (bound : handle < workspace.records.length) :
    (workspace.changeRecord handle edit).record handle = edit (workspace.record handle) := by
  rw [record_changeRecord, if_pos ⟨rfl, bound⟩]

theorem given_identity {record : Record} {given : Option Cell} {cells : List (String × Cell)} {row : Row}
    {table last : Table}
    (isInteger : ∀ value, record.sentIdentity? = some value → ∃ number, value = .integer number)
    (gives : record.Gives given) (inserted : table.insert model given cells = .ok (row, last)) :
    record.sentIdentity?.getD (.integer row.id) = .integer row.id := by
  cases sent : record.sentIdentity? with
  | none => rfl
  | some value =>
      rw [Record.Gives, sent] at gives
      obtain ⟨cell, rfl, binds⟩ := gives
      obtain ⟨number, rfl⟩ := isInteger value sent
      obtain ⟨rfl, _⟩ := Attribute.identity_binds_integer binds
      obtain ⟨identified, _⟩ := Table.insert_ok inserted
      have same : number = row.id := Except.ok.inj identified
      rw [Option.getD_some, same]

theorem ripens_insertRecord {stamped : Bool} (orderly : (before.record handle).Orderly)
    (keyless : (before.record handle).key = none) (bound : handle < before.records.length)
    (ran : before.insertRecord model stamped handle = .ok after) : Ripens handle before after := by
  have writes := writes_insertRecord ran
  obtain ⟨row, table, ⟨cells, sends, inserted⟩, rfl⟩ := insertRecord_ok ran
  have isInteger := orderly.sent_isInteger keyless
  rw [given_identity isInteger (gives_of_sentAs sends) inserted,
    assign_of_lookup (row.lookup_identity model)] at writes ⊢
  have noKey : ∀ key ∈ (before.record handle).key, key = .integer row.id := by
    rw [keyless]
    intro key held
    cases held
  have there : handle < ({ before with table } : Workspace).records.length := bound
  refine ⟨writes, ?_, ?_, fun other different => record_changeRecord_of_ne different⟩
  · rw [record_changeRecord_self there]
    exact Record.orderly_load noKey
  · rw [record_changeRecord_self there]
    exact ⟨row.id, row.lookup_identity model, noKey⟩

theorem reloadExpired_ok (orderly : (before.record handle).Orderly)
    (ran : before.reloadExpired model handle = .ok after) :
    (after.record handle).Orderly ∧ (after.record handle).expired = false ∧
      ∀ other, other ≠ handle → after.record other = before.record other := by
  simp only [reloadExpired] at ran
  split at ran
  · rename_i expired
    obtain ⟨cell, binds, located⟩ := bind_eq_ok_iff.mp ran
    split at located
    · rename_i row found
      obtain rfl := Except.ok.inj located
      have keyed := key_of_located orderly binds found
      have bound := lt_of_key_eq keyed
      refine ⟨?_, ?_, fun other different => record_changeRecord_of_ne different⟩
      · rw [record_changeRecord_self bound]
        exact Record.orderly_fill orderly keyed
      · rw [record_changeRecord_self bound]
        rfl
    · cases located
  · rename_i fresh
    obtain rfl := Except.ok.inj ran
    exact ⟨orderly, by simpa using fresh, fun _ _ => rfl⟩

theorem netChange?_of_cleared {record : Record} {number : Int}
    (held : record.get? Attribute.identity.name = some .null)
    (before : record.changes.lookup Attribute.identity.name = some (some (.integer number))) :
    record.netChange? .identity = some (.identity, .null) := by
  simp [Record.netChange?, held, before, Value.same]

theorem not_rewrites_of_cleared {stamped : Bool} {record : Record} {table last : Table}
    (change : record.netChange? .identity = some (.identity, .null)) :
    ¬Rewrites model stamped record table last := by
  rintro ⟨place, old, cells, moment, row, _, located, sends, _, updated⟩
  have sent := cellOf?_of_sentAs sends .identity
  rw [find?_sentChanges stamped record model.identity_mem (by decide), change] at sent
  obtain ⟨cell, found, binds⟩ := sent
  obtain rfl := Attribute.identity_binds_null binds
  have accepted := (Table.update_ok (List.mem_of_find?_eq_some located) updated).1
  rw [found] at accepted
  cases accepted

theorem ripens_updateRecord {stamped : Bool} (orderly : (before.record handle).Orderly)
    (keyed : (before.record handle).key ≠ none)
    (ran : before.updateRecord model stamped handle = .ok after) : Ripens handle before after := by
  have writes := writes_updateRecord ran
  obtain ⟨reloaded, reloads, wrote⟩ := updateRecord_ok ran
  obtain ⟨reread, fresh, others⟩ := reloadExpired_ok orderly reloads
  have keyed : (reloaded.record handle).key ≠ none := by
    rwa [(writes_reloadExpired reloads).key]
  -- Only a record that holds its identity can be written.
  have ripe : (reloaded.record handle).Ripe := by
    cases reread.stands with
    | unknown keyless _ => exact absurd keyless keyed
    | loaded number key own _ =>
        refine ⟨number, own, fun other same => ?_⟩
        exact Option.some.inj (same.symm.trans key)
    | cleared number key own changed =>
        have change := netChange?_of_cleared own changed
        rcases wrote with ⟨_, _, nothing⟩ | ⟨table, rewrites, _⟩
        · rw [← find?_sentChanges stamped _ model.identity_mem (by decide), nothing] at change
          cases change
        · exact absurd rewrites (not_rewrites_of_cleared change)
    | lost _ _ _ _ expired =>
        rw [fresh] at expired
        cases expired
  rcases wrote with ⟨rfl, _⟩ | ⟨table, _, rfl | rfl⟩
  · exact ⟨writes, reread, ripe, others⟩
  · exact ⟨writes, reread, ripe, others⟩
  · have there : handle < ({ reloaded with table } : Workspace).records.length := lt_of_keyed keyed
    refine ⟨writes, ?_, ?_, fun other different => ?_⟩
    · rw [record_changeRecord_self there]
      exact ⟨distinct_filter _ reread.distinct,
        reread.stands.of_same rfl (Record.get?_unstamped _) rfl fun expired => expired⟩
    · rw [record_changeRecord_self there]
      obtain ⟨number, own, key⟩ := ripe
      exact ⟨number, (Record.get?_unstamped _).trans own, key⟩
    · rw [record_changeRecord_of_ne different]
      exact others other different

section Runs

variable {Holds : Workspace → Prop}

theorem ripens_foldlM {step : Workspace → Handle → Except StoreFailure Workspace}
    {handles : List Handle} {done : List Handle} (start : Holds before)
    (ripe : ∀ other ∈ done, (before.record other).Ripe)
    (steps : ∀ start, start.sessions = before.sessions → Holds start → ∀ handle ∈ handles, ∀ last,
      step start handle = .ok last → Holds last ∧ Ripens handle start last)
    (ran : handles.foldlM step before = .ok after) :
    Holds after ∧ ∀ other ∈ done ++ handles, (after.record other).Ripe := by
  -- The records that were written before are ripe, and stay so as each step changes its own only.
  induction handles generalizing before done with
  | nil =>
      obtain rfl := Except.ok.inj ran
      rw [List.append_nil]
      exact ⟨start, ripe⟩
  | cons handle handles ih =>
      rw [List.foldlM_cons] at ran
      obtain ⟨middle, first, rest⟩ := bind_eq_ok_iff.mp ran
      obtain ⟨holds, ripens⟩ := steps before rfl start handle List.mem_cons_self middle first
      have ripe' : ∀ other ∈ done ++ [handle], (middle.record other).Ripe := by
        intro other listed
        by_cases same : other = handle
        · exact same ▸ ripens.ripe
        · rw [ripens.others other same]
          rcases List.mem_append.mp listed with earlier | here
          · exact ripe other earlier
          · exact absurd (List.mem_singleton.mp here) same
      have written := ih holds ripe' (fun start same holds other later =>
        steps start (same.trans ripens.sessions) holds other (List.mem_cons_of_mem _ later)) rest
      rwa [List.append_assoc] at written

/-- What is said of a session whose records are familiar, and is kept by every record that is written, is kept
by writing them all. -/
theorem ripe_of_writeRecords {stamped : Option Handle} {changed : List Handle}
    (familiar : ∀ {workspace : Workspace}, Holds workspace → Familiar id workspace)
    (keeps : ∀ {start last : Workspace} {handle : Handle}, Holds start → Ripens handle start last →
      Holds last) (start : Holds before)
    (held : ∀ other ∈ changed, other ∈ (before.session id).attached)
    (ran : before.writeRecords model stamped changed (before.session id).pending = .ok after) :
    Holds after ∧ ∀ other ∈ changed ++ (before.session id).pending, (after.record other).Ripe := by
  obtain ⟨middle, updates, inserts⟩ := bind_eq_ok_iff.mp ran
  have done : ∀ other ∈ ([] : List Handle), (before.record other).Ripe :=
    fun _ listed => absurd listed List.not_mem_nil
  obtain ⟨updated, ripe⟩ := ripens_foldlM start done (fun start same holds other listed last ran => by
    obtain ⟨orderly, keyed⟩ := (familiar holds).attached other (by
      rw [session, same]
      exact held other listed)
    have ripens := ripens_updateRecord orderly keyed ran
    exact ⟨keeps holds ripens, ripens⟩) updates
  have sessions : middle.sessions = before.sessions := by
    refine (foldlM_relates Writes.refl Writes.trans ?_ updates).sessions
    exact fun _ _ _ => writes_updateRecord
  refine ripens_foldlM updated ripe (fun start same holds other listed last ran => ?_) inserts
  obtain ⟨orderly, keyless, bound⟩ := (familiar holds).pending other (by
    rw [session, same, sessions]
    exact listed)
  have ripens := ripens_insertRecord orderly keyless bound ran
  exact ⟨keeps holds ripens, ripens⟩

end Runs

def settledUnder (number : Int) (record : Record) : Record :=
  { record with changes := [], key := some (.integer number) }

theorem settleRecord_keyless {number : Int} (keyless : (workspace.record handle).key = none)
    (held : (workspace.record handle).get? Attribute.identity.name = some (.integer number)) :
    workspace.settleRecord id handle = ((workspace.changeRecord handle
      (settledUnder number)).attach id handle).changeSession id fun session => { session with
        pending := session.pending.filter fun other => other != handle
        created := session.created ++ [handle] } := by
  simp only [settleRecord, held, keyless, Option.getD_some]
  rfl

theorem settleRecord_keyed {number : Int} (bound : handle < workspace.records.length)
    (keyed : (workspace.record handle).key = some (.integer number))
    (held : (workspace.record handle).get? Attribute.identity.name = some (.integer number)) :
    workspace.settleRecord id handle = workspace.changeRecord handle (settledUnder number) := by
  have same : (Value.integer number).same (.integer number) = true := (same_integer_iff _ _).mpr rfl
  simp only [settleRecord, held, keyed, Option.getD_some, same, if_true, changeRecord]
  refine congrArg (fun records => { workspace with records }) ?_
  refine List.ext_getElem? fun other => ?_
  simp only [List.getElem?_modify]
  by_cases here : handle = other
  · subst here
    have there : workspace.records[handle] = workspace.record handle := by
      simp [Workspace.record, bound]
    simp [bound, settledUnder, there, keyed]
  · simp [here]

theorem length_records_settleRecord (id : SessionId) (handle : Handle) (workspace : Workspace) :
    (workspace.settleRecord id handle).records.length = workspace.records.length := by
  simp only [settleRecord]
  split
  · exact List.length_modify _ _ _
  · split
    · exact List.length_modify _ _ _
    · exact List.length_modify _ _ _

/-- Whether settling a record led from one workspace to another, as far as the lists of its session tell: the
record does not wait any more if it is new, and it may join those that the session knows. -/
structure PassesOn (id : SessionId) (handle : Handle) (before after : Workspace) : Prop where
  sessions : after.sessions.length = before.sessions.length
  pending : ∀ other ∈ (after.session id).pending, other ∈ (before.session id).pending ∧
    (other = handle → (before.record handle).key ≠ none)
  attached : ∀ other ∈ (after.session id).attached, other = handle ∨ other ∈ (before.session id).attached
  removed : (after.session id).removed = (before.session id).removed
  rekeyed : (after.session id).rekeyed = (before.session id).rekeyed

section Settling

variable {number : Int} (bound : handle < workspace.records.length)

include bound

theorem key_settledUnder {other : Handle} (keyed : (workspace.record other).key ≠ none ∨ other = handle) :
    ((workspace.changeRecord handle (settledUnder number)).record other).key ≠ none := by
  by_cases same : other = handle
  · rw [same, record_changeRecord_self bound]
    exact Option.some_ne_none _
  · rw [record_changeRecord_of_ne same]
    exact keyed.resolve_right same

theorem ripe_settledUnder
    (held : (workspace.record handle).get? Attribute.identity.name = some (.integer number))
    {other : Handle} (ripe : (workspace.record other).Ripe) :
    ((workspace.changeRecord handle (settledUnder number)).record other).Ripe := by
  by_cases same : other = handle
  · rw [same, record_changeRecord_self bound]
    exact ⟨number, held, fun key there => (Option.some.inj there).symm⟩
  · rw [record_changeRecord_of_ne same]
    exact ripe

theorem record_settleRecord {number : Int}
    (held : (workspace.record handle).get? Attribute.identity.name = some (.integer number))
    (ownKey : ∀ key ∈ (workspace.record handle).key, key = .integer number) (other : Handle) :
    (workspace.settleRecord id handle).record other =
      (workspace.changeRecord handle (settledUnder number)).record other := by
  cases key : (workspace.record handle).key with
  | some before =>
      obtain rfl := ownKey before key
      rw [settleRecord_keyed bound key held]
  | none =>
      rw [settleRecord_keyless key held]
      rfl

theorem passesOn_settleRecord (known : id < workspace.sessions.length)
    (ripe : (workspace.record handle).Ripe) :
    PassesOn id handle workspace (workspace.settleRecord id handle) := by
  obtain ⟨number, held, own⟩ := ripe
  cases key : (workspace.record handle).key with
  | some before =>
      obtain rfl := own before key
      rw [settleRecord_keyed bound key held]
      refine ⟨rfl, fun other waiting => ⟨waiting, fun _ => ?_⟩, fun other held => .inr held, rfl, rfl⟩
      rw [key]
      exact Option.some_ne_none _
  | none =>
      rw [settleRecord_keyless key held]
      let settled := workspace.changeRecord handle (settledUnder number)
      have there : id < settled.sessions.length := known
      have knownAttached : id < (settled.attach id handle).sessions.length := by
        rwa [length_sessions_attach]
      have attached := session_changeSession_self (fun session : Session => { session with
        pending := session.pending.filter fun other => other != handle
        created := session.created ++ [handle] }) knownAttached
      obtain ⟨removed, rekeyed⟩ : ((settled.attach id handle).session id).removed =
          (workspace.session id).removed ∧
          ((settled.attach id handle).session id).rekeyed = (workspace.session id).rekeyed := by
        rw [attach, session_changeSession_self _ there]
        exact ⟨rfl, rfl⟩
      refine ⟨?_, fun other waiting => ?_, fun other held => ?_, ?_, ?_⟩
      · rw [length_sessions_changeSession, length_sessions_attach]
        rfl
      · rw [attached, pending_attach] at waiting
        obtain ⟨before, different⟩ := List.mem_filter.mp waiting
        exact ⟨before, fun same => by simp [same] at different⟩
      · rw [attached] at held
        have listed := mem_attached_attach handle there held
        exact listed
      · rw [attached]
        exact removed
      · rw [attached]
        exact rekeyed

theorem orderly_settleRecord (orderly : (workspace.record handle).Orderly)
    (ripe : (workspace.record handle).Ripe) {other : Handle} (was : (workspace.record other).Orderly) :
    ((workspace.settleRecord id handle).record other).Orderly := by
  obtain ⟨number, held, own⟩ := ripe
  rw [record_settleRecord bound held own]
  by_cases same : other = handle
  · rw [same, record_changeRecord_self bound]
    exact Record.orderly_settled orderly.distinct held
  · rwa [record_changeRecord_of_ne same]

theorem keyed_settleRecord (ripe : (workspace.record handle).Ripe) {other : Handle}
    (keyed : other = handle ∨ (workspace.record other).key ≠ none) :
    ((workspace.settleRecord id handle).record other).key ≠ none := by
  obtain ⟨number, held, own⟩ := ripe
  rw [record_settleRecord bound held own]
  exact key_settledUnder bound keyed.symm

theorem waits_settleRecord (ripe : (workspace.record handle).Ripe) {other : Handle}
    (keyless : (workspace.record other).key = none ∧ other < workspace.records.length)
    (passed : other = handle → (workspace.record handle).key ≠ none) :
    ((workspace.settleRecord id handle).record other).key = none ∧
      other < (workspace.settleRecord id handle).records.length := by
  obtain ⟨number, held, own⟩ := ripe
  have different : other ≠ handle := fun same => passed same (same ▸ keyless.1)
  rw [record_settleRecord bound held own, record_changeRecord_of_ne different,
    length_records_settleRecord]
  exact keyless

theorem tidy_settleRecord (tidy : Tidy id workspace) (ripe : (workspace.record handle).Ripe) :
    Tidy id (workspace.settleRecord id handle) := by
  have passes := passesOn_settleRecord bound tidy.known ripe
  refine ⟨passes.sessions ▸ tidy.known, fun other => ?_, fun other waiting => ?_, fun other held => ?_,
    fun other gone => ?_, passes.rekeyed.trans tidy.rekeyed⟩
  · exact orderly_settleRecord bound (tidy.orderly handle) ripe (tidy.orderly other)
  · obtain ⟨before, passed⟩ := passes.pending other waiting
    exact waits_settleRecord bound ripe (tidy.pending other before) passed
  · exact keyed_settleRecord bound ripe ((passes.attached other held).imp_right (tidy.attached other))
  · rw [passes.removed] at gone
    exact keyed_settleRecord bound ripe (.inr (tidy.removed other gone))

theorem familiar_settleRecord (familiar : Familiar id workspace)
    (orderly : (workspace.record handle).Orderly) (ripe : (workspace.record handle).Ripe) :
    Familiar id (workspace.settleRecord id handle) := by
  have passes := passesOn_settleRecord bound familiar.known ripe
  refine ⟨passes.sessions ▸ familiar.known, fun other waiting => ?_, fun other held => ?_⟩
  · obtain ⟨before, passed⟩ := passes.pending other waiting
    obtain ⟨was, waits⟩ := familiar.pending other before
    exact ⟨orderly_settleRecord bound orderly ripe was, waits_settleRecord bound ripe waits passed⟩
  · rcases passes.attached other held with rfl | before
    · exact ⟨orderly_settleRecord bound orderly ripe orderly, keyed_settleRecord bound ripe (.inl rfl)⟩
    · obtain ⟨was, keyed⟩ := familiar.attached other before
      exact ⟨orderly_settleRecord bound orderly ripe was, keyed_settleRecord bound ripe (.inr keyed)⟩

theorem ripe_settleRecord (ripe : (workspace.record handle).Ripe) {other : Handle}
    (ready : (workspace.record other).Ripe) : ((workspace.settleRecord id handle).record other).Ripe := by
  obtain ⟨number, held, own⟩ := ripe
  rw [record_settleRecord bound held own]
  exact ripe_settledUnder bound held ready

end Settling

theorem tidy_settleRecords {handles : List Handle} (tidy : Tidy id workspace)
    (ripe : ∀ other ∈ handles, (workspace.record other).Ripe ∧ other < workspace.records.length) :
    Tidy id (handles.foldl (fun workspace handle => workspace.settleRecord id handle) workspace) := by
  induction handles generalizing workspace with
  | nil => exact tidy
  | cons handle handles ih =>
      obtain ⟨ready, bound⟩ := ripe handle List.mem_cons_self
      refine ih (tidy_settleRecord bound tidy ready) fun other later => ?_
      obtain ⟨readyLater, boundLater⟩ := ripe other (List.mem_cons_of_mem _ later)
      rw [length_records_settleRecord]
      exact ⟨ripe_settleRecord bound ready readyLater, boundLater⟩

end Writes

end Workspace
end RecordStore
