import RecordStore.Proofs.KnownRows

/-!
What a save leaves in the row of its record. The attributes that the record holds are copied onto the record
by which the session knows the row, and what differs there is written; the rest of the row stays, but for the
moment of change.
-/

namespace RecordStore

namespace Record

variable {record : Record} {model : Model} {attr : Attribute} {row last : Row} {number : Int}

structure Mirrors (model : Model) (row : Row) (number : Int) (record : Record) : Prop where
  fresh : record.expired = false
  unchanged : record.changes = []
  keyed : record.key = some (.integer number)
  identified : record.get? Attribute.identity.name = some (.integer number)
  shown : record.ShownBy model row

theorem mirrors_ofRow (model : Model) (row : Row) : (ofRow model row).Mirrors model row row.id where
  fresh := rfl
  unchanged := rfl
  keyed := rfl
  identified := row.lookup_identity model
  shown attr listed _ _ held := by
    obtain rfl := Option.some.inj ((row.lookup_values listed).symm.trans held)
    exact row.has_value attr

theorem Mirrors.reads (mirrors : record.Mirrors model row number) : record.Reads model row := by
  intro attr listed apart value known
  rw [known?_of_unchanged mirrors.unchanged] at known
  exact mirrors.shown attr listed apart value known

theorem Orderly.mirrors (orderly : record.Orderly) (fresh : record.expired = false)
    (unchanged : record.changes = []) (keyed : record.key = some (.integer number))
    (shown : record.ShownBy model row) : record.Mirrors model row number := by
  refine ⟨fresh, unchanged, keyed, ?_, shown⟩
  cases orderly.stands with
  | unknown keyless _ => cases keyless.symm.trans keyed
  | loaded other key held _ => exact held.trans (key.symm.trans keyed)
  | cleared other _ _ before =>
      rw [unchanged] at before
      cases before
  | lost _ _ _ _ expired => cases fresh.symm.trans expired

theorem ShownBy.fill (shown : record.ShownBy model row) :
    (record.fill (row.values model)).ShownBy model row := by
  intro attr listed apart value held
  rw [get?_fill] at held
  cases own : record.get? attr.name with
  | some other =>
      rw [own, Option.some_or] at held
      obtain rfl := Option.some.inj held
      exact shown attr listed apart other own
  | none =>
      rw [own, Option.none_or] at held
      have there := lookup_of_mem (row.distinct_values model) (lookup_missing held).1
      obtain rfl := Option.some.inj ((row.lookup_values listed).symm.trans there)
      exact row.has_value attr

def Copies (record : Record) (attr : Attribute) (old row : Row) : Prop :=
  row.cell attr = old.cell attr ∧ (∀ value, record.get? attr.name = some value → old.Has attr value) ∨
    ∃ value cell, record.get? attr.name = some value ∧ attr.Binds value cell ∧
      row.cell attr = cell.drawn attr.type.affinity

theorem Mirrors.copies (mirrors : record.Mirrors model row number) {source : Record}
    (distinct : Distinct source.values) (rewrites : (record.setAll source.values).Rewrites attr row last)
    (listed : attr ∈ model.attributes) (apart : attr.name ≠ Attribute.updated.name) :
    source.Copies attr row last := by
  have holds := get?_setAll source.values record attr.name
  have changed := lookup_changes_setAll source.values record attr.name
  rw [lookup_assignAll_nil _ distinct, ← get?] at holds changed
  rw [mirrors.unchanged] at changed
  rw [Rewrites, netChange?, holds, changed] at rewrites
  rw [Copies]
  cases given : source.get? attr.name with
  | none =>
      rw [given] at rewrites
      refine .inl ⟨rewrites, fun value held => ?_⟩
      cases held
  | some value =>
      rw [given] at rewrites
      simp only [Option.isSome_some, if_true, Option.some_or, List.lookup_nil, Option.getD_none] at rewrites
      cases held : record.get? attr.name with
      | none =>
          rw [held] at rewrites
          obtain ⟨cell, binds, stored⟩ := rewrites
          exact .inr ⟨value, cell, rfl, binds, stored⟩
      | some other =>
          rw [held] at rewrites
          cases same : value.same other with
          | true =>
              simp only [Option.map_some, same, Option.getD_some, if_true] at rewrites
              refine .inl ⟨rewrites, fun given held' => ?_⟩
              obtain rfl := Option.some.inj held'
              exact (mirrors.shown attr listed apart other held).of_same same
          | false =>
              simp only [Option.map_some, same, Option.getD_some] at rewrites
              obtain ⟨cell, binds, stored⟩ := rewrites
              exact .inr ⟨value, cell, rfl, binds, stored⟩

theorem Mirrors.setAll (mirrors : record.Mirrors model row number) {values : List (String × Value)}
    (distinct : Distinct values)
    (identified : ∀ value, values.lookup Attribute.identity.name = some value → value = .integer number) :
    (record.setAll values).expired = false ∧ (record.setAll values).key = some (.integer number) ∧
      (record.setAll values).get? Attribute.identity.name = some (.integer number) ∧
      (record.setAll values).rowIdentity = .integer number := by
  refine ⟨(expired_setAll values record).trans mirrors.fresh, (key_setAll values record).trans mirrors.keyed,
    ?_, rowIdentity_setAll values (by rw [mirrors.unchanged]; rfl) mirrors.identified⟩
  rw [get?_setAll, lookup_assignAll_nil _ distinct, mirrors.identified]
  cases given : values.lookup Attribute.identity.name with
  | none => rfl
  | some value =>
      rw [identified value given]
      rfl

/-- What a save leaves in a row for an attribute of a record: the value that is set on the record, if one is;
otherwise what its session had changed in a record of its own, or else what the row had. -/
def SavedAs (record own : Record) (attr : Attribute) (old row : Row) : Prop :=
  match record.get? attr.name with
  | some value => row.Has attr value
  | none => own.Rewrites attr old row

theorem Rewrites.of_cell {old : Row} (rewrites : record.Rewrites attr old row)
    (same : last.cell attr = row.cell attr) : record.Rewrites attr old last := by
  rw [Rewrites, same]
  exact rewrites

theorem rewrites_blank (attr : Attribute) (row : Row) :
    ({ values := [] } : Record).Rewrites attr row row := rfl

theorem Copies.savedAs {own : Record} {old : Row} (copies : record.Copies attr row last)
    (rewrites : own.Rewrites attr old row) : record.SavedAs own attr old last := by
  rw [SavedAs]
  rcases copies with ⟨same, has⟩ | ⟨value, cell, held, binds, stored⟩
  · cases held : record.get? attr.name with
    | none => exact rewrites.of_cell same
    | some value => exact (has value held).of_cell same
  · rw [held]
    exact Row.has_of_stored binds stored

end Record

namespace Workspace

variable {model : Model} {id : SessionId} {before after : Workspace} {handle record : Handle}
  {number : Int} {own : Option Handle} {row : Row}

theorem revive_ok {found : Option Handle} (keyed : (before.record handle).key = some (.integer number))
    (placed : before.table.find? number = some row)
    (ran : (revive model id handle).run before = (.ok found, after)) :
    found = some handle ∧
      after = (before.begun id).changeRecord handle (Record.fill (row.values model)) := by
  obtain ⟨_, begun, begins, ran⟩ := Action.run_bind_ok_iff.mp ran
  obtain ⟨_, rfl⟩ := run_useTransaction_ok_iff.mp begins
  rw [Action.run_bind_ok (Action.run_get _)] at ran
  obtain ⟨cell, middle, binds, ran⟩ := Action.run_bind_ok_iff.mp ran
  obtain ⟨bound, rfl⟩ := Action.run_ofStore_ok_iff.mp binds
  rw [record_begun, keyed] at bound
  obtain ⟨rfl, _⟩ := Cell.bind_integer bound
  rw [Table.locate?_integer, table_begun, placed] at ran
  obtain ⟨same, rfl⟩ := Action.run_pure_ok_iff.mp ran
  exact ⟨same.symm, rfl⟩

theorem loadIdentity_ok {found : Option Handle} (unknown : before.attached? id (.integer number) = none)
    (placed : before.table.find? number = some row)
    (ran : (loadIdentity model id (.integer number)).run before = (.ok found, after)) :
    found = some before.records.length ∧ after = (before.begun id).introduce model id row := by
  obtain ⟨_, rfl⟩ := Table.find?_eq_some_iff.mp placed
  obtain ⟨_, begun, begins, ran⟩ := Action.run_bind_ok_iff.mp ran
  obtain ⟨_, rfl⟩ := run_useTransaction_ok_iff.mp begins
  obtain ⟨cell, middle, binds, ran⟩ := Action.run_bind_ok_iff.mp ran
  obtain ⟨bound, rfl⟩ := Action.run_ofStore_ok_iff.mp binds
  obtain ⟨rfl, _⟩ := Cell.bind_integer bound
  rw [Action.run_bind_ok (Action.run_get _), Table.locate?_integer, table_begun, placed] at ran
  have stillUnknown : (before.begun id).attached? id (.integer row.id) = none := by
    simp only [attached?, attached_begun, record_begun]
    exact unknown
  obtain ⟨loaded, last, loads, ends⟩ := Action.run_bind_ok_iff.mp ran
  rw [run_loadRow, stillUnknown] at loads
  obtain ⟨rfl, rfl⟩ := Action.run_pure_ok_iff.mp loads
  obtain ⟨same, rfl⟩ := Prod.mk.inj ends
  rw [records_begun] at same
  exact ⟨(Except.ok.inj same).symm, rfl⟩

/-- Whether a session knows its records by their identities, each record by one of its own, and knows of a row
only what the row has, but for what it has changed since. -/
structure Current (model : Model) (id : SessionId) (old : Row) (workspace : Workspace) : Prop
    extends Familiar id workspace where
  identified : ((workspace.session id).attached.map fun handle => (workspace.record handle).key).Nodup
  reads : ∀ handle, workspace.attached? id (.integer old.id) = some handle →
    (workspace.record handle).Reads model old

theorem Current.knowsBy {old : Row} (current : Current model id old before) :
    KnowsBy id old.id (before.attached? id (.integer old.id)) before := by
  intro handle
  have keyed {other : Handle} (found : before.attached? id (.integer old.id) = some other) :
      other ∈ (before.session id).attached ∧ (before.record other).key = some (.integer old.id) := by
    have held := List.mem_of_find?_eq_some found
    obtain ⟨orderly, _⟩ := current.attached other held
    exact ⟨held, key_of_attached? orderly (.inr ⟨old.id, rfl⟩) found⟩
  constructor
  · rintro ⟨held, key⟩
    cases found : before.attached? id (.integer old.id) with
    | none =>
        exact absurd (Record.hasKey_of_key key) (List.find?_eq_none.mp found handle held)
    | some other =>
        obtain ⟨there, same⟩ := keyed found
        exact congrArg some (List.inj_on_of_nodup_map current.identified there held (same.trans key.symm))
  · exact keyed

theorem changeRecord_setAll_nil (workspace : Workspace) (handle : Handle) :
    workspace.changeRecord handle (Record.setAll []) = workspace :=
  congrArg (fun records => { workspace with records }) (List.modify_id handle workspace.records)

/-- Whether a session is ready to merge a record into the row of an identity: it has nothing to write, and the
row has what the session knows of it. -/
structure Poised (model : Model) (id : SessionId) (number : Int) (own : Option Handle) (row : Row)
    (workspace : Workspace) : Prop where
  known : id < workspace.sessions.length
  settled : Settled id workspace
  distinct : (workspace.session id).attached.Nodup
  attached : workspace.attached? id (.integer number) = own
  placed : workspace.table.find? number = some row
  keyed : ∀ handle ∈ own, (workspace.record handle).Orderly ∧
    (workspace.record handle).key = some (.integer number)
  shown : ∀ handle ∈ own, (workspace.record handle).ShownBy model row

structure Targeted (model : Model) (id : SessionId) (number : Int) (row : Row) (target : Handle)
    (workspace : Workspace) : Prop where
  known : id < workspace.sessions.length
  distinct : (workspace.session id).attached.Nodup
  attached : target ∈ (workspace.session id).attached
  settled : Settled id workspace
  placed : workspace.table.find? number = some row
  mirrors : (workspace.record target).Mirrors model row number

theorem Poised.revived {found : Option Handle} (poised : Poised model id number (some handle) row before)
    (ran : (revive model id handle).run before = (.ok found, after)) :
    found = some handle ∧ Targeted model id number row handle after ∧ after.clockCell = before.clockCell := by
  obtain ⟨orderly, keyed⟩ := poised.keyed handle rfl
  have held := List.mem_of_find?_eq_some poised.attached
  have reading := untouched_revive model id handle before
  rw [ran] at reading
  obtain ⟨known, settled, table⟩ := reading poised.known poised.settled
  have placed : after.table.find? number = some row := table ▸ poised.placed
  obtain ⟨same, rfl⟩ := revive_ok keyed poised.placed ran
  have bound : handle < (before.begun id).records.length := by
    rw [records_begun]
    exact lt_of_key_eq keyed
  have mirrors : (((before.begun id).changeRecord handle (Record.fill (row.values model))).record
      handle).Mirrors model row number := by
    obtain ⟨_, rfl⟩ := Table.find?_eq_some_iff.mp poised.placed
    rw [record_changeRecord_self bound, record_begun]
    exact (Record.orderly_fill orderly keyed).mirrors rfl (poised.settled.unchanged handle held) keyed
      (poised.shown handle rfl).fill
  refine ⟨same, ⟨known, ?_, ?_, settled, placed, mirrors⟩, clockCell_begun before id⟩
  · rw [session_changeRecord, attached_begun]
    exact poised.distinct
  · rw [session_changeRecord, attached_begun]
    exact held

theorem Poised.loaded {found : Option Handle} (poised : Poised model id number none row before)
    (ran : (loadIdentity model id (.integer number)).run before = (.ok found, after)) :
    found = some before.records.length ∧ Targeted model id number row before.records.length after ∧
      after.clockCell = before.clockCell := by
  have reading := untouched_loadIdentity model id (.integer number) before
  rw [ran] at reading
  obtain ⟨known, settled, table⟩ := reading poised.known poised.settled
  have placed : after.table.find? number = some row := table ▸ poised.placed
  obtain ⟨same, rfl⟩ := loadIdentity_ok poised.attached poised.placed ran
  have knownBegun : id < (before.begun id).sessions.length := by
    rw [length_sessions_begun]
    exact poised.known
  have mirrors : (((before.begun id).introduce model id row).record before.records.length).Mirrors
      model row number := by
    obtain ⟨_, rfl⟩ := Table.find?_eq_some_iff.mp poised.placed
    rw [record_introduce, records_begun, if_pos rfl]
    exact Record.mirrors_ofRow model row
  refine ⟨same, ⟨known, ?_, ?_, settled, placed, mirrors⟩, clockCell_begun before id⟩
  · rw [attached_introduce knownBegun, attached_begun]
    exact nodup_taken poised.distinct _
  · rw [attached_introduce knownBegun, records_begun]
    exact List.mem_append_right _ List.mem_cons_self

theorem Poised.mergeTarget {source : Record} {target : Handle}
    (poised : Poised model id number own row before) (key : mergeKey source = .integer number)
    (ran : (mergeTarget model id source).run before = (.ok target, after)) :
    Targeted model id number row target after ∧ after.clockCell = before.clockCell ∧
      target = own.getD before.records.length := by
  simp only [Workspace.mergeTarget] at ran
  rw [mergeKey] at key
  rw [Action.run_bind_ok (Action.run_get before), key, poised.attached] at ran
  cases own with
  | some handle =>
      cases expired : (before.record handle).expired with
      | true =>
          simp only [expired, if_true] at ran
          obtain ⟨found, revived, revives, ends⟩ := Action.run_bind_ok_iff.mp ran
          obtain ⟨rfl, targeted, clock⟩ := poised.revived revives
          obtain ⟨rfl, rfl⟩ := Action.run_pure_ok_iff.mp ends
          exact ⟨targeted, clock, rfl⟩
      | false =>
          simp only [expired, Bool.false_eq_true, if_false] at ran
          obtain ⟨rfl, rfl⟩ := Action.run_pure_ok_iff.mp ran
          obtain ⟨orderly, keyed⟩ := poised.keyed handle rfl
          have held := List.mem_of_find?_eq_some poised.attached
          have mirrors := orderly.mirrors expired (poised.settled.unchanged handle held) keyed
            (poised.shown handle rfl)
          exact ⟨⟨poised.known, poised.distinct, held, poised.settled, poised.placed, mirrors⟩, rfl, rfl⟩
  | none =>
      obtain ⟨found, loaded, loads, ends⟩ := Action.run_bind_ok_iff.mp ran
      obtain ⟨rfl, targeted, clock⟩ := poised.loaded loads
      obtain ⟨rfl, rfl⟩ := Action.run_pure_ok_iff.mp ends
      exact ⟨targeted, clock, rfl⟩

theorem Poised.merge {target : Handle} (poised : Poised model id number own row before)
    (held : (before.record record).get? Attribute.identity.name = some (.integer number))
    (ownKey : ∀ key ∈ (before.record record).key, key = .integer number)
    (ran : (merge model id record).run before = (.ok target, after)) :
    ∃ found values, Targeted model id number row target found ∧ found.clockCell = before.clockCell ∧
      after = found.changeRecord target (Record.setAll values) ∧
      (own = some record ∧ values = [] ∨ own ≠ some record ∧ values = (before.record record).values) := by
  obtain ⟨_, start, nothing, ran⟩ := Action.run_bind_ok_iff.mp ran
  rw [flushBeforeQuery, run_flushWith_settled poised.settled] at nothing
  obtain ⟨_, rfl⟩ := Prod.mk.inj nothing
  rw [Action.run_bind_ok (Action.run_get _)] at ran
  obtain ⟨_, found, targets, ran⟩ := Action.run_bind_ok_iff.mp ran
  have key : mergeKey (before.record record) = .integer number := by
    rw [mergeKey, held]
    cases known : (before.record record).key with
    | none => rfl
    | some key => exact ownKey key known
  obtain ⟨targeted, clock, rfl⟩ := poised.mergeTarget key targets
  split at ran
  · rename_i different
    obtain ⟨_, edited, edits, ends⟩ := Action.run_bind_ok_iff.mp ran
    obtain ⟨_, rfl⟩ := Prod.mk.inj edits
    obtain ⟨rfl, rfl⟩ := Action.run_pure_ok_iff.mp ends
    refine ⟨found, _, targeted, clock, rfl, .inr ⟨?_, rfl⟩⟩
    rintro rfl
    exact different rfl
  · rename_i itself
    obtain ⟨rfl, rfl⟩ := Action.run_pure_ok_iff.mp ran
    refine ⟨found, [], targeted, clock, (changeRecord_setAll_nil found _).symm, .inl ⟨?_, rfl⟩⟩
    cases own with
    | some handle => exact congrArg some (not_ne_iff.mp itself)
    | none =>
        have same : before.records.length = record := not_ne_iff.mp itself
        rw [← same, record_of_le (Nat.le_refl _)] at held
        cases held

theorem changedRecords_targeted {target : Handle} (distinct : (before.session id).attached.Nodup)
    (attached : target ∈ (before.session id).attached)
    (unchanged : ∀ other ∈ (before.session id).attached, other ≠ target →
      (before.record other).changes = []) :
    before.changedRecords id (some target) = [target] := by
  have only (other : Handle) : other ∈ before.changedRecords id (some target) ↔ other = target := by
    rw [mem_changedRecords]
    constructor
    · rintro ⟨held, changes | stamped⟩
      · by_contra different
        exact changes (unchanged other held different)
      · exact (Option.some.inj stamped).symm
    · rintro rfl
      exact ⟨attached, .inr rfl⟩
  refine List.perm_singleton.mp ((List.perm_ext_iff_of_nodup (nodup_changedRecords distinct)
    (List.nodup_singleton target)).mpr fun other => ?_)
  rw [only, List.mem_singleton]

theorem Targeted.saves {target : Handle} {flushed : Workspace} {values : List (String × Value)}
    (targeted : Targeted model id number row target before) (distinct : Distinct values)
    (identified : ∀ value, values.lookup Attribute.identity.name = some value → value = .integer number)
    (flushes : (flushStamped model id target).run (before.changeRecord target (Record.setAll values)) =
      (.ok (), flushed)) (refreshes : (refresh model id target).run flushed = (.ok (), after)) :
    ∃ last, after.table.find? number = some last ∧
      (∀ attr ∈ model.attributes, attr.name ≠ Attribute.updated.name →
        ((before.record target).setAll values).Rewrites attr row last) ∧
      last.cell .updated = before.clockCell ∧ (after.record target).values = last.values model := by
  let edited := before.changeRecord target (Record.setAll values)
  have bound := lt_of_key_eq targeted.mirrors.keyed
  have boundEdited : target < (edited.begun id).records.length := by
    rw [records_begun]
    exact Nat.lt_of_lt_of_eq bound (List.length_modify _ _ _).symm
  have itself : (edited.begun id).record target = (before.record target).setAll values := by
    rw [record_begun]
    exact record_changeRecord_self bound
  obtain ⟨fresh, keyed, held, identity⟩ := targeted.mirrors.setAll distinct identified
  have only : edited.changedRecords id (some target) = [target] :=
    changedRecords_targeted targeted.distinct targeted.attached fun other listed different =>
      (congrArg Record.changes (record_changeRecord_of_ne different)).trans
        (targeted.settled.unchanged other listed)
  have known : id < edited.sessions.length := targeted.known
  have keyless : edited.Keyless id := .inr fun other waiting => by
    have nothing : (edited.session id).pending = [] := targeted.settled.noPending
    rw [nothing] at waiting
    cases waiting
  obtain ⟨written, wrote, rfl⟩ := updateRecord_of_flushWith only targeted.settled.noPending flushes
  rw [beq_self_eq_true] at wrote
  rw [← itself] at fresh keyed held identity
  have settled := settled_of_refresh known keyless flushes refreshes
  obtain ⟨last, rfl, placed, rewrites, stamped⟩ := updateRecord_row fresh held identity
    ((table_begun edited id).symm ▸ targeted.placed) wrote
  have writes := writes_updateRecord wrote
  have boundWritten : target < written.records.length := writes.length ▸ boundEdited
  have settles : written.settleRecord id target = written.changeRecord target (settledUnder last.id) :=
    settleRecord_keyed boundWritten ((writes.key target).trans keyed)
      ((get?_updateRecord boundEdited fresh wrote (by decide)).trans held)
  rw [settles] at refreshes settled
  obtain ⟨values, table⟩ := refresh_row settled ⟨.integer last.id, by
    rw [record_changeRecord_self boundWritten]
    rfl, Record.finds_integer placed⟩ refreshes
  refine ⟨last, table ▸ placed, fun attr listed apart => ?_, ?_, values⟩
  · exact itself ▸ rewrites attr listed apart
  · rw [stamped rfl, clockCell_begun]
    rfl

/-- A record that the session knows the row by is saved as it is; of any other, the attributes are copied. -/
structure SavesAs (model : Model) (own : Option Handle) (record : Handle) (source : Record) (old row : Row) :
    Prop where
  itself : own = some record → ∀ attr ∈ model.attributes, attr.name ≠ Attribute.updated.name →
    row.cell attr = old.cell attr
  copies : own ≠ some record → ∀ attr ∈ model.attributes, attr.name ≠ Attribute.updated.name →
    source.Copies attr old row

end Workspace

namespace Repository

open Workspace UnitOfWork

variable {repository : Repository} {id : SessionId} {before after : Workspace} {record saved : Handle}
  {number : Int} {own : Option Handle} {row : Row}

theorem saveIn_row (poised : Poised repository.model id number own row before)
    (held : (before.record record).get? Attribute.identity.name = some (.integer number))
    (ownKey : ∀ key ∈ (before.record record).key, key = .integer number)
    (distinct : Distinct (before.record record).values)
    (ran : (repository.saveIn record id).run before = (.ok saved, after)) :
    ∃ last, after.table.find? number = some last ∧
      SavesAs repository.model own record (before.record record) row last ∧
      last.cell .updated = before.clockCell ∧
      (after.record saved).values = last.values repository.model := by
  obtain ⟨target, middle, merges, ran⟩ := Action.run_bind_ok_iff.mp ran
  obtain ⟨_, flushed, flushes, ran⟩ := Action.run_bind_ok_iff.mp ran
  obtain ⟨_, refreshed, refreshes, ends⟩ := Action.run_bind_ok_iff.mp ran
  obtain ⟨rfl, rfl⟩ := Action.run_pure_ok_iff.mp ends
  obtain ⟨found, values, targeted, clock, rfl, sets⟩ := poised.merge held ownKey merges
  rcases sets with ⟨itself, rfl⟩ | ⟨different, rfl⟩
  · have nothingSet : Distinct ([] : List (String × Value)) := List.nodup_nil
    obtain ⟨last, placed, rewrites, stamped, values⟩ := targeted.saves nothingSet
      (fun _ given => by cases given) flushes refreshes
    refine ⟨last, placed, ⟨fun _ attr listed apart => ?_, fun different => absurd itself different⟩,
      stamped.trans clock, values⟩
    have unchanged : ((found.record target).setAll []).changes = [] := targeted.mirrors.unchanged
    exact (rewrites attr listed apart).stays (Record.netChange?_of_unchanged unchanged attr)
  · obtain ⟨last, placed, rewrites, stamped, values⟩ := targeted.saves distinct
      (fun value given => Option.some.inj (given.symm.trans held)) flushes refreshes
    refine ⟨last, placed, ⟨fun itself => absurd itself different, fun _ attr listed apart => ?_⟩,
      stamped.trans clock, values⟩
    exact targeted.mirrors.copies distinct (rewrites attr listed apart) listed apart

def ownRecord (workspace : Workspace) (own : Option Handle) : Record :=
  (own.map workspace.record).getD { values := [] }

theorem saveIn_flushed {start : Workspace} {old : Row}
    (flushed : Flushes repository.model id number own old row before start)
    (held : (before.record record).get? Attribute.identity.name = some (.integer number))
    (ownKey : ∀ key ∈ (before.record record).key, key = .integer number)
    (distinct : Distinct (before.record record).values)
    (ran : (repository.saveIn record id).run start = (.ok saved, after)) :
    ∃ last, after.table.find? number = some last ∧
      (∀ attr ∈ repository.model.attributes, attr.name ≠ Attribute.updated.name →
        (before.record record).SavedAs (ownRecord before own) attr old last) ∧
      last.cell .updated = before.clockCell ∧
      (after.record saved).values = last.values repository.model := by
  have poised : Poised repository.model id number own row start :=
    { known := flushed.familiar.known
      settled := flushed.settled
      distinct := flushed.distinct
      attached := flushed.knows.attached? flushed.familiar
      placed := flushed.placed
      keyed := fun handle isOwn => by
        obtain ⟨held, keyed⟩ := (flushed.knows handle).mpr isOwn
        exact ⟨(flushed.familiar.attached handle held).1, keyed⟩
      shown := fun handle isOwn => (flushed.flushed handle isOwn).shown }
  have rewrites : ∀ attr ∈ repository.model.attributes, attr.name ≠ Attribute.updated.name →
      (ownRecord before own).Rewrites attr old row := by
    intro attr listed apart
    cases isOwn : own with
    | none =>
        rw [flushed.stays isOwn]
        exact Record.rewrites_blank attr old
    | some handle => exact (flushed.flushed handle isOwn).rewrites attr listed apart
  by_cases itself : own = some record
  · have written := flushed.flushed record itself
    obtain ⟨attached, keyed⟩ := (flushed.knows record).mpr itself
    obtain ⟨last, placed, saves, stamped, values⟩ := saveIn_row poised
      (written.keeps _ _ (by decide) held)
      (fun key known => (Option.some.inj (keyed.symm.trans known)).symm)
      (flushed.familiar.attached record attached).1.distinct ran
    refine ⟨last, placed, fun attr listed apart => ?_, stamped.trans flushed.clock, values⟩
    have same := saves.itself itself attr listed apart
    rw [Record.SavedAs]
    cases set : (before.record record).get? attr.name with
    | none => exact (rewrites attr listed apart).of_cell same
    | some value =>
        exact (written.shown attr listed apart value (written.keeps _ _ apart set)).of_cell same
  · have same := (flushed.others record held ownKey).resolve_left itself
    rw [← same] at held ownKey distinct
    obtain ⟨last, placed, saves, stamped, values⟩ := saveIn_row poised held ownKey distinct ran
    refine ⟨last, placed, fun attr listed apart => ?_, stamped.trans flushed.clock, values⟩
    exact same ▸ (saves.copies itself attr listed apart).savedAs (rewrites attr listed apart)

theorem saveIn_of_flush {start : Workspace} (settled : Settled id start)
    (flushes : (flushBeforeQuery repository.model id).run before = (.ok (), start)) :
    (repository.saveIn record id).run before = (repository.saveIn record id).run start := by
  have merges : (merge repository.model id record).run before =
      (merge repository.model id record).run start := by
    rw [merge, Action.run_bind_ok flushes, flushBeforeQuery,
      Action.run_bind_ok (run_flushWith_settled settled)]
  exact Action.run_bind_congr merges _

/-- The record by which the session of a unit that is joined knows the row of an identity, if it knows it. A
unit of its own knows no rows yet. -/
def knownBy (workspace : Workspace) (scope : Scope) (number : Int) : Option Handle :=
  (scope.bind UnitOfWork.session).bind fun id => workspace.attached? id (.integer number)

/-- A save that succeeds writes what is set on its record into the row, null included, and leaves the rest of
the row, but for what the session of its unit had changed there. The moment of change is that of the clock,
and the record that the save gives holds the row. -/
theorem save_writes_what_is_set (repository : Repository) {workspace after : Workspace} {scope : Scope}
    {record saved : Handle} {number : Int} {old : Row}
    (held : (workspace.record record).get? Attribute.identity.name = some (.integer number))
    (ownKey : ∀ key ∈ (workspace.record record).key, key = .integer number)
    (distinct : Distinct (workspace.record record).values)
    (found : workspace.table.find? number = some old)
    (current : ∀ id, scope.bind UnitOfWork.session = some id → Current repository.model id old workspace)
    (ran : (repository.save record scope).run workspace = (.ok saved, after)) :
    ∃ row, after.table.find? number = some row ∧
      (∀ attr ∈ repository.model.attributes, attr.name ≠ Attribute.updated.name →
        (workspace.record record).SavedAs (ownRecord workspace (knownBy workspace scope number))
          attr old row) ∧
      row.cell .updated = workspace.clockCell ∧
      (after.record saved).values = row.values repository.model := by
  cases scope with
  | some unit =>
      obtain ⟨id, inside, session, saves, records, table⟩ := save_joined ran
      have current := current id session
      have isKnown : knownBy workspace (some unit) number = workspace.attached? id (.integer number) := by
        rw [knownBy, Option.bind_some, session, Option.bind_some]
      obtain ⟨_, rfl⟩ := Table.find?_eq_some_iff.mp found
      obtain ⟨_, _, merges, _⟩ := Action.run_bind_ok_iff.mp saves
      obtain ⟨_, start, flushes, _⟩ := Action.run_bind_ok_iff.mp merges
      obtain ⟨row, flushed⟩ := flushes_ok current.toFamiliar current.knowsBy
        (current.identified.of_map _) found current.reads flushes
      rw [saveIn_of_flush flushed.settled flushes] at saves
      rw [isKnown, table, record_of_records records]
      exact saveIn_flushed flushed held ownKey distinct saves
  | none =>
      obtain ⟨_, inside, _, _, saves, records, table⟩ := save_inside ran
      have fresh := fresh_opened workspace
      have clock : (opened none workspace).clockCell = workspace.clockCell := by
        rw [opened_none]
        rfl
      have poised : Poised repository.model (sessionIn none workspace) number none old
          (opened none workspace) :=
        { known := fresh.known
          settled := fresh.settled
          distinct := fresh.unknown ▸ List.nodup_nil
          attached := fresh.attached? _
          placed := (table_opened none workspace).symm ▸ found
          keyed := nofun
          shown := nofun }
      rw [← record_opened] at held ownKey distinct ⊢
      obtain ⟨last, placed, saves, stamped, values⟩ := saveIn_row poised held ownKey distinct saves
      rw [table, record_of_records records]
      refine ⟨last, placed, fun attr listed apart => ?_, stamped.trans clock, values⟩
      exact (saves.copies nofun attr listed apart).savedAs (Record.rewrites_blank attr old)

def ada : Row :=
  ⟨1, [("name", .text "Ada"), ("age", .integer 30), ("status", .text "active"),
    ("email_address", .text "home"), ("created_time", .text "1990-01-01 00:00:00"),
    ("updated_time", .text "1990-01-01 00:00:00")]⟩

def revisited : Workspace where
  clock := default
  table := Table.empty.put ada
  records := [Record.ofRow people.model ada,
    { values := [("id", .integer 1), ("age", .integer 31), ("email", .null)] }]
  sessions := [{ transaction := .active (Table.empty.put ada), attached := [0] }]

theorem current_revisited : Current people.model 0 ada revisited where
  known := by decide
  pending := nofun
  attached handle held := by
    obtain rfl := List.mem_singleton.mp held
    exact ⟨⟨ada.distinct_values _, .of_unchanged 1 rfl rfl rfl⟩, Option.some_ne_none _⟩
  identified := List.nodup_singleton _
  reads handle known := by
    obtain rfl := List.mem_singleton.mp (List.mem_of_find?_eq_some known)
    exact (Record.mirrors_ofRow people.model ada).reads

theorem ada_turns_thirty_one_in_a_joined_unit :
    ∃ after, (people.save 1 (some (.callerManaged 0))).run revisited = (.ok 0, after) ∧
      ∃ row, after.table.find? 1 = some row ∧
        (∀ attr ∈ people.model.attributes, attr.name ≠ Attribute.updated.name →
          (revisited.record 1).SavedAs (Record.ofRow people.model ada) attr ada row) ∧
        row.cell .updated = revisited.clockCell ∧
        (after.record 0).values = row.values people.model := by
  have returns : ((people.save 1 (some (.callerManaged 0))).run revisited).1.toOption = some 0 := by
    decide +kernel
  have ran : (people.save 1 (some (.callerManaged 0))).run revisited =
      (.ok 0, ((people.save 1 (some (.callerManaged 0))).run revisited).2) :=
    Prod.ext (eq_ok_of_toOption returns) rfl
  have known : knownBy revisited (some (.callerManaged 0)) 1 = some 0 := by
    decide +kernel
  have keyless : ∀ key ∈ (revisited.record 1).key, key = .integer 1 := fun _ held => by cases held
  have found : revisited.table.find? 1 = some ada := rfl
  have saved := save_writes_what_is_set people rfl keyless (by decide) found (fun id joined => by
    obtain rfl := Option.some.inj joined
    exact current_revisited) ran
  rw [known] at saved
  exact ⟨_, ran, saved⟩

def meanwhile (happens : Handle → Action Workspace Unit) (fields : List (String × Value)) : Workspace :=
  ((do
    let ada ← makeRecord people.model [("name", .text "Ada"), ("age", .integer 30)]
    let _ ← people.create ada none
    let session ← addSession
    let known ← people.findById (.integer 1) (some (.callerManaged session))
    happens known
    let _ ← makeRecord people.model (("id", .integer 1) :: fields) : Action Workspace Unit).run nobody).2

/-- A save goes by what its session knows. What the session has changed in its record is written along, though
the saved record does not set it; a value that the session takes for the one in the row is not written, though
another session has changed it; a value that equals the one that the session's record was given leaves the
column with what it stores of that one; and a row whose record was given another identity makes room for a new
one. -/
theorem joined_saves_go_by_their_session :
    (let workspace := meanwhile
      (fun known => setAttribute people.model known "name" (.text "Eve")) [("age", .integer 31)]
    (workspace.table.find? 1).map (fun row => row.cells.lookup "name") = some (some (.text "Ada")) ∧
      ((workspace.record 2).get? "name").isNone ∧
      ((people.save 2 (some (.callerManaged 1))).run workspace).1.toOption.isSome ∧
      (((people.save 2 (some (.callerManaged 1))).run workspace).2.table.find? 1).map
        (fun row => row.cells.lookup "name") = some (some (.text "Eve"))) ∧
    (let workspace := meanwhile (fun _ => do
        let other ← makeRecord people.model [("id", .integer 1), ("name", .text "Eve")]
        let _ ← people.save other none) [("name", .text "Ada")]
    ((workspace.record 4).get? "name").bind Value.asText? = some "Ada" ∧
      ((people.save 4 (some (.callerManaged 1))).run workspace).1.toOption.isSome ∧
      (((people.save 4 (some (.callerManaged 1))).run workspace).2.table.find? 1).map
        (fun row => row.cells.lookup "name") = some (some (.text "Eve"))) ∧
    (let one := Double.ofDecimal false 1 0
    let workspace := meanwhile
      (fun known => setAttribute people.model known "name" (.integer 1)) [("name", .float one)]
    (Cell.real one).drawn .text = .text "1.0" ∧
      ((people.save 2 (some (.callerManaged 1))).run workspace).1.toOption.isSome ∧
      (((people.save 2 (some (.callerManaged 1))).run workspace).2.table.find? 1).map
        (fun row => row.cells.lookup "name") = some (some (.text "1"))) ∧
    (let workspace := meanwhile
      (fun known => setAttribute people.model known "id" (.integer 5)) [("name", .text "Bob")]
    (workspace.table.find? 1).map (fun row => row.cells.lookup "age") = some (some (.integer 30)) ∧
      ((workspace.record 2).get? "age").isNone ∧
      ((people.save 2 (some (.callerManaged 1))).run workspace).1.toOption.isSome ∧
      (((people.save 2 (some (.callerManaged 1))).run workspace).2.table.find? 1).map
        (fun row => row.cells.lookup "age") = some (some (.integer 0))) := by
  refine ⟨⟨?_, ?_, ?_, ?_⟩, ⟨?_, ?_, ?_⟩, ⟨?_, ?_, ?_⟩, ?_, ?_, ?_, ?_⟩
  all_goals decide +kernel

end Repository

end RecordStore
