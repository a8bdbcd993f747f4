import RecordStore.Proofs.RowUpdates

/-!
What a flush does to the row of one identity. The record by which the session knows the row is written into
it; the other records that are written leave it, as no update and no insert takes an identity that a row has.
-/

namespace RecordStore

namespace Record

variable {record : Record} {model : Model} {attr : Attribute} {old row : Row} {number : Int}

theorem lookup_missing {name : String} {values : List (String × Value)} {value : Value}
    (read : (values.filter fun entry =>
      (record.get? entry.1).isNone && (record.changes.lookup entry.1).isNone).lookup name = some value) :
    (name, value) ∈ values ∧ record.changes.lookup name = none := by
  obtain ⟨listed, missing⟩ := List.mem_filter.mp (mem_of_lookup read)
  simp only [Bool.and_eq_true, Option.isNone_iff_eq_none] at missing
  exact ⟨listed, missing.2⟩

theorem netChange?_fill (values : List (String × Value)) (record : Record) (attr : Attribute) :
    (record.fill values).netChange? attr = record.netChange? attr := by
  have same : (record.fill values).changes = record.changes := rfl
  rw [netChange?, netChange?, same, get?_fill]
  cases changed : record.changes.lookup attr.name with
  | none => rfl
  | some before =>
      cases record.get? attr.name with
      | some value => rfl
      | none =>
          cases read : (values.filter fun entry => (record.get? entry.1).isNone &&
              (record.changes.lookup entry.1).isNone).lookup attr.name with
          | none => rfl
          | some value =>
              rw [(lookup_missing read).2] at changed
              cases changed

theorem get?_fill_of_held {name : String} {value : Value} (held : record.get? name = some value)
    (values : List (String × Value)) : (record.fill values).get? name = some value := by
  rw [get?_fill, held, Option.some_or]

theorem Reads.fill (reads : record.Reads model old) : (record.fill (old.values model)).Reads model old := by
  intro attr listed apart value known
  have same : (record.fill (old.values model)).changes = record.changes := rfl
  have reads := reads attr listed apart value
  rw [known?, same, get?_fill] at known
  rw [known?] at reads
  cases changed : record.changes.lookup attr.name with
  | some before =>
      rw [changed] at known reads
      exact reads known
  | none =>
      rw [changed] at known reads
      cases held : record.get? attr.name with
      | some other =>
          rw [held, Option.some_or] at known
          rw [held] at reads
          exact reads known
      | none =>
          rw [held, Option.none_or] at known
          have there := lookup_of_mem (old.distinct_values model) (lookup_missing known).1
          obtain rfl := Option.some.inj ((old.lookup_values listed).symm.trans there)
          exact old.has_value attr

theorem hasKey_of_key (keyed : record.key = some (.integer number)) :
    record.hasKey (.integer number) = true := by
  rw [hasKey, keyed]
  exact (Workspace.same_integer_iff number number).mpr rfl

theorem Orderly.rowIdentity (orderly : record.Orderly) (fresh : record.expired = false)
    (keyed : record.key = some (.integer number)) : record.rowIdentity = .integer number := by
  have own {other : Int} (key : record.key = some (.integer other)) : other = number :=
    Value.integer.inj (Option.some.inj (key.symm.trans keyed))
  rw [Record.rowIdentity]
  cases orderly.stands with
  | unknown keyless _ => cases keyless.symm.trans keyed
  | loaded other key held before =>
      obtain rfl := own key
      cases changed : record.changes.lookup Attribute.identity.name with
      | none => simp only [held, Option.getD_some]
      | some first =>
          obtain rfl := before first changed
          rfl
  | cleared other key _ before =>
      obtain rfl := own key
      rw [before]
  | lost _ _ _ _ expired => cases fresh.symm.trans expired

def ShownBy (model : Model) (row : Row) (record : Record) : Prop :=
  ∀ attr ∈ model.attributes, attr.name ≠ Attribute.updated.name →
    ∀ value, record.get? attr.name = some value → row.Has attr value

/-- What a flush makes of a row and of the record of it: the changes of the record are in the row, the row has
all that the record holds then, and the record holds what it held. -/
structure FlushedInto (model : Model) (record : Record) (old row : Row) (flushed : Record) : Prop where
  rewrites : ∀ attr ∈ model.attributes, attr.name ≠ Attribute.updated.name → record.Rewrites attr old row
  shown : flushed.ShownBy model row
  keeps : ∀ name value, name ≠ Attribute.updated.name → record.get? name = some value →
    flushed.get? name = some value

theorem Reads.flushed (reads : record.Reads model old) (unchanged : record.changes = []) :
    record.FlushedInto model old old record where
  rewrites attr _ _ := by
    rw [Rewrites, netChange?_of_unchanged unchanged]
  shown attr listed apart value held :=
    reads attr listed apart value ((known?_of_unchanged unchanged _).trans held)
  keeps _ _ _ held := held

theorem FlushedInto.of_values {flushed last : Record}
    (written : record.FlushedInto model old row flushed) (same : last.values = flushed.values) :
    record.FlushedInto model old row last where
  rewrites := written.rewrites
  shown attr listed apart value held := written.shown attr listed apart value (by
    rwa [Record.get?, same] at held)
  keeps name value apart held := by
    rw [Record.get?, same]
    exact written.keeps name value apart held

end Record

namespace Workspace

variable {model : Model} {id : SessionId} {before after workspace : Workspace} {handle : Handle}
  {number : Int} {stamped : Bool} {old : Row}

structure KeepsRow (number : Int) (before after : Workspace) : Prop where
  clock : after.clockCell = before.clockCell
  row : ∀ row, before.table.find? number = some row → after.table.find? number = some row

instance (number : Int) : IsPreorder Workspace (KeepsRow number) where
  refl _ := ⟨rfl, fun _ found => found⟩
  trans _ _ _ left right :=
    ⟨right.clock.trans left.clock, fun row found => right.row row (left.row row found)⟩

section Steps

theorem clockCell_reloadExpired (ran : before.reloadExpired model handle = .ok after) :
    after.clockCell = before.clockCell := by
  simp only [reloadExpired] at ran
  split at ran
  · obtain ⟨cell, _, located⟩ := bind_eq_ok_iff.mp ran
    split at located
    · obtain rfl := Except.ok.inj located
      rfl
    · cases located
  · obtain rfl := Except.ok.inj ran
    rfl

theorem updateRecord_reloaded (ran : before.updateRecord model stamped handle = .ok after) :
    ∃ reloaded, before.reloadExpired model handle = .ok reloaded ∧
      ((reloaded.record handle).expired = false →
        reloaded.updateRecord model stamped handle = .ok after) := by
  rw [updateRecord] at ran
  obtain ⟨reloaded, reloads, updates⟩ := bind_eq_ok_iff.mp ran
  refine ⟨reloaded, reloads, fun fresh => ?_⟩
  have again : reloaded.reloadExpired model handle = .ok reloaded := by
    simp only [reloadExpired, fresh, Bool.false_eq_true, if_false]
  rw [updateRecord, again, ok_bind]
  exact updates

theorem get?_updateRecord (bound : handle < before.records.length)
    (fresh : (before.record handle).expired = false)
    (ran : before.updateRecord model stamped handle = .ok after) {name : String}
    (apart : name ≠ Attribute.updated.name) :
    (after.record handle).get? name = (before.record handle).get? name := by
  obtain ⟨reloaded, reloads, wrote⟩ := updateRecord_ok ran
  simp only [reloadExpired, fresh, Bool.false_eq_true, if_false] at reloads
  obtain rfl := Except.ok.inj reloads
  rcases wrote with ⟨rfl, _⟩ | ⟨table, _, rfl | rfl⟩
  · rfl
  · rfl
  · have there : handle < ({ before with table } : Workspace).records.length := bound
    rw [record_changeRecord_self there]
    exact lookup_unassign_of_ne apart _

theorem clockCell_updateRecord (ran : before.updateRecord model stamped handle = .ok after) :
    after.clockCell = before.clockCell := by
  obtain ⟨reloaded, reloads, wrote⟩ := updateRecord_ok ran
  have clock := clockCell_reloadExpired reloads
  rcases wrote with ⟨rfl, _⟩ | ⟨_, _, rfl | rfl⟩
  · exact clock
  · exact clock
  · exact clock

theorem keepsRow_updateRecord (orderly : (before.record handle).Orderly) {other : Int}
    (keyed : (before.record handle).key = some (.integer other)) (apart : other ≠ number)
    (ran : before.updateRecord model stamped handle = .ok after) : KeepsRow number before after := by
  obtain ⟨reloaded, reloads, wrote⟩ := updateRecord_ok ran
  obtain ⟨reread, fresh, _⟩ := reloadExpired_ok orderly reloads
  have key := ((writes_reloadExpired reloads).key handle).trans keyed
  have identity := reread.rowIdentity fresh key
  have clock := clockCell_updateRecord ran
  have table := table_reloadExpired reloads
  rcases wrote with ⟨rfl, _⟩ | ⟨last, ⟨place, old, cells, moment, row, binds, located, _, _, accepted⟩, wrote⟩
  · exact ⟨clock, fun row found => by rwa [table]⟩
  · rw [identity] at binds
    obtain ⟨rfl, _⟩ := Attribute.identity_binds_integer binds
    rw [Table.locate?_integer, table] at located
    obtain ⟨present, rfl⟩ := Table.find?_eq_some_iff.mp located
    rw [table] at accepted
    obtain ⟨_, _, new, rows, _⟩ := Table.update_ok present accepted
    have stays (kept : Row) (found : before.table.find? number = some kept) :
        last.find? number = some kept := by
      have different : number ≠ row.id := by
        rintro rfl
        rcases new with same | missing
        · exact apart same.symm
        · rw [missing] at found
          cases found
      rw [rows, if_neg different, if_neg (Ne.symm apart), found]
    rcases wrote with rfl | rfl
    · exact ⟨clock, stays⟩
    · exact ⟨clock, stays⟩

theorem keepsRow_insertRecord (ran : before.insertRecord model stamped handle = .ok after) :
    KeepsRow number before after := by
  obtain ⟨row, table, ⟨cells, _, inserted⟩, rfl⟩ := insertRecord_ok ran
  obtain ⟨_, _, new, rfl⟩ := Table.insert_ok inserted
  refine ⟨rfl, fun kept found => (before.table.find?_put row number).trans ?_⟩
  have different : number ≠ row.id := by
    rintro rfl
    rw [new] at found
    cases found
  rw [if_neg different, found]

/-- No record is inserted under the identity of a row: it did not hold the identity, and is not given it. -/
theorem apart_of_insertRecord (orderly : (before.record handle).Orderly)
    (keyless : (before.record handle).key = none) (bound : handle < before.records.length)
    (found : before.table.find? number = some old)
    (ran : before.insertRecord model stamped handle = .ok after) :
    (before.record handle).get? Attribute.identity.name ≠ some (.integer number) ∧
      (after.record handle).get? Attribute.identity.name ≠ some (.integer number) := by
  obtain ⟨row, table, ⟨cells, sends, inserted⟩, rfl⟩ := insertRecord_ok ran
  obtain ⟨_, _, new, _⟩ := Table.insert_ok inserted
  have given := given_identity (orderly.sent_isInteger keyless) (gives_of_sentAs sends) inserted
  have different : row.id ≠ number := by
    rintro rfl
    rw [new] at found
    cases found
  constructor
  · intro held
    have sent : (before.record handle).sentIdentity? = some (.integer number) := by
      rw [Record.sentIdentity?, held]
    rw [sent] at given
    exact different (Value.integer.inj given).symm
  · have there : handle < ({ before with table } : Workspace).records.length := bound
    rw [record_changeRecord_self there, given, assign_of_lookup (row.lookup_identity model)]
    have own : ((before.record handle).load (row.values model)).get? Attribute.identity.name =
        some (.integer row.id) := row.lookup_identity model
    exact fun same => different (Value.integer.inj (Option.some.inj (own.symm.trans same)))

theorem reloadExpired_reads (orderly : (before.record handle).Orderly)
    (keyed : (before.record handle).key = some (.integer number))
    (found : before.table.find? number = some old) (reads : (before.record handle).Reads model old)
    (reloads : before.reloadExpired model handle = .ok after) :
    (after.record handle).Reads model old ∧
      (∀ attr, (after.record handle).netChange? attr = (before.record handle).netChange? attr) ∧
      ∀ name value, (before.record handle).get? name = some value →
        (after.record handle).get? name = some value := by
  simp only [reloadExpired] at reloads
  split at reloads
  · obtain ⟨cell, binds, located⟩ := bind_eq_ok_iff.mp reloads
    split at located
    · rename_i other locates
      obtain rfl := Except.ok.inj located
      have own := key_of_located orderly binds locates
      rw [keyed] at own binds
      obtain ⟨rfl, _⟩ := Cell.bind_integer binds
      rw [Table.locate?_integer, found] at locates
      obtain rfl := Option.some.inj locates
      rw [record_changeRecord_self (lt_of_key_eq keyed)]
      exact ⟨reads.fill, Record.netChange?_fill _ _, fun name value had => Record.get?_fill_of_held had _⟩
    · cases located
  · obtain rfl := Except.ok.inj reloads
    exact ⟨reads, fun _ => rfl, fun _ _ had => had⟩

theorem updateRecord_flushes (orderly : (before.record handle).Orderly)
    (keyed : (before.record handle).key = some (.integer number))
    (found : before.table.find? number = some old) (reads : (before.record handle).Reads model old)
    (ran : before.updateRecord model stamped handle = .ok after) :
    ∃ row, after.table.find? number = some row ∧
      (before.record handle).FlushedInto model old row (after.record handle) := by
  obtain ⟨reloaded, reloads, updates⟩ := updateRecord_reloaded ran
  obtain ⟨reread, fresh, _⟩ := reloadExpired_ok orderly reloads
  have updates := updates fresh
  have writes := writes_reloadExpired reloads
  have key := (writes.key handle).trans keyed
  have bound := lt_of_key_eq key
  have hasKey : (reloaded.record handle).key ≠ none := by
    rw [key]
    exact Option.some_ne_none _
  have held : (reloaded.record handle).get? Attribute.identity.name = some (.integer number) := by
    obtain ⟨other, held, own⟩ := (ripens_updateRecord reread hasKey updates).ripe
    rw [get?_updateRecord bound fresh updates (by decide)] at held
    have ends := (writes_updateRecord updates).key handle
    rw [held, own (.integer number) (ends.trans key)]
  have there : reloaded.table.find? number = some old := (table_reloadExpired reloads).symm ▸ found
  obtain ⟨row, _, placed, rewrites, _⟩ :=
    updateRecord_row fresh held (reread.rowIdentity fresh key) there updates
  obtain ⟨readsAgain, change, keeps⟩ := reloadExpired_reads orderly keyed found reads reloads
  refine ⟨row, placed, fun attr listed apart => ?_, fun attr listed apart value has => ?_,
    fun name value apart had => ?_⟩
  · have written := rewrites attr listed apart
    rwa [Record.Rewrites, change] at written
  · rw [get?_updateRecord bound fresh updates apart] at has
    exact (rewrites attr listed apart).has readsAgain listed apart has
  · rw [get?_updateRecord bound fresh updates apart]
    exact keeps name value had

end Steps

section Runs

variable {handles : List Handle}

structure WritesApart (id : SessionId) (number : Int) (handles : List Handle) (before after : Workspace) :
    Prop extends KeepsRow number before after where
  familiar : Familiar id after
  sessions : after.sessions = before.sessions
  others : ∀ other, other ∉ handles → after.record other = before.record other

theorem WritesApart.cons {middle : Workspace} {rest : List Handle}
    (first : WritesApart id number [handle] before middle) (later : WritesApart id number rest middle after) :
    WritesApart id number (handle :: rest) before after where
  toKeepsRow := trans_of (KeepsRow number) first.toKeepsRow later.toKeepsRow
  familiar := later.familiar
  sessions := later.sessions.trans first.sessions
  others other apart := by
    obtain ⟨different, outside⟩ := not_or.mp (mt List.mem_cons.mpr apart)
    exact (later.others other outside).trans (first.others other (mt List.mem_singleton.mp different))

theorem writesApart_updates (familiar : Familiar id before) {stamped : Option Handle}
    (attached : ∀ other ∈ handles, other ∈ (before.session id).attached)
    (apart : ∀ other ∈ handles, (before.record other).key ≠ some (.integer number))
    (ran : handles.foldlM (fun workspace handle =>
      workspace.updateRecord model (stamped == some handle) handle) before = .ok after) :
    WritesApart id number handles before after := by
  induction handles generalizing before with
  | nil =>
      obtain rfl := Except.ok.inj ran
      exact ⟨refl_of (KeepsRow number) before, familiar, rfl, fun _ _ => rfl⟩
  | cons handle handles ih =>
      rw [List.foldlM_cons] at ran
      obtain ⟨middle, first, rest⟩ := bind_eq_ok_iff.mp ran
      obtain ⟨orderly, hasKey⟩ := familiar.attached handle (attached handle List.mem_cons_self)
      have ripens := ripens_updateRecord orderly hasKey first
      have still := familiar.of_ripens ripens
      obtain ⟨key, keyed⟩ := Option.ne_none_iff_exists'.mp hasKey
      obtain ⟨other, rfl⟩ := orderly.key_isInteger keyed
      have different : other ≠ number := by
        rintro rfl
        exact apart handle List.mem_cons_self keyed
      have passed : WritesApart id number [handle] before middle :=
        ⟨keepsRow_updateRecord orderly keyed different first, still, ripens.sessions,
          fun other outside => ripens.others other (mt List.mem_singleton.mpr outside)⟩
      refine passed.cons (ih still (fun other later => ?_) (fun other later => ?_) rest)
      · rw [session, ripens.sessions]
        exact attached other (List.mem_cons_of_mem _ later)
      · rw [ripens.key]
        exact apart other (List.mem_cons_of_mem _ later)

theorem writesApart_inserts (familiar : Familiar id before) {stamped : Option Handle}
    (waiting : ∀ other ∈ handles, other ∈ (before.session id).pending)
    (found : before.table.find? number = some old)
    (ran : handles.foldlM (fun workspace handle =>
      workspace.insertRecord model (stamped == some handle) handle) before = .ok after) :
    WritesApart id number handles before after ∧ ∀ other ∈ handles,
      (before.record other).get? Attribute.identity.name ≠ some (.integer number) ∧
        (after.record other).get? Attribute.identity.name ≠ some (.integer number) := by
  induction handles generalizing before with
  | nil =>
      obtain rfl := Except.ok.inj ran
      exact ⟨⟨refl_of (KeepsRow number) before, familiar, rfl, fun _ _ => rfl⟩, nofun⟩
  | cons handle handles ih =>
      rw [List.foldlM_cons] at ran
      obtain ⟨middle, first, rest⟩ := bind_eq_ok_iff.mp ran
      obtain ⟨orderly, keyless, bound⟩ := familiar.pending handle (waiting handle List.mem_cons_self)
      have ripens := ripens_insertRecord orderly keyless bound first
      have still := familiar.of_ripens ripens
      have keeps : KeepsRow number before middle := keepsRow_insertRecord first
      obtain ⟨without, given⟩ := apart_of_insertRecord orderly keyless bound found first
      have passed : WritesApart id number [handle] before middle :=
        ⟨keeps, still, ripens.sessions, fun other outside =>
          ripens.others other (mt List.mem_singleton.mpr outside)⟩
      have stillWaiting : ∀ other ∈ handles, other ∈ (middle.session id).pending := fun other later => by
        rw [session, ripens.sessions]
        exact waiting other (List.mem_cons_of_mem _ later)
      obtain ⟨passes, apart⟩ := ih still stillWaiting (keeps.row old found) rest
      refine ⟨passed.cons passes, fun other listed => ?_⟩
      by_cases same : other = handle
      · subst same
        refine ⟨without, ?_⟩
        by_cases again : other ∈ handles
        · exact (apart other again).2
        · rwa [passes.others other again]
      · have later := (List.mem_cons.mp listed).resolve_left same
        rw [← ripens.others other same]
        exact apart other later

/-- Whether a session knows the row of an identity by the given record, and by no other. -/
def KnowsBy (id : SessionId) (number : Int) (own : Option Handle) (workspace : Workspace) : Prop :=
  ∀ handle, handle ∈ (workspace.session id).attached ∧
    (workspace.record handle).key = some (.integer number) ↔ own = some handle

structure WritesRow (model : Model) (number : Int) (own : Option Handle) (handles : List Handle)
    (old row : Row) (before after : Workspace) : Prop where
  clock : after.clockCell = before.clockCell
  placed : after.table.find? number = some row
  flushed : ∀ handle ∈ own,
    (before.record handle).FlushedInto model old row (after.record handle)
  stays : own = none → row = old
  others : ∀ other, other ∉ handles → after.record other = before.record other

theorem KnowsBy.of_writes {own : Option Handle} (knows : KnowsBy id number own before)
    (writes : Writes before after) : KnowsBy id number own after := by
  intro handle
  rw [session, writes.sessions, ← session, writes.key]
  exact knows handle

theorem writesRow_own {middle : Workspace} {stamped : Option Handle} (familiar : Familiar id before)
    (knows : KnowsBy id number (some handle) before) (once : handle ∉ handles)
    (found : before.table.find? number = some old) (reads : (before.record handle).Reads model old)
    (first : before.updateRecord model (stamped == some handle) handle = .ok middle)
    (attached : ∀ other ∈ handles, other ∈ (middle.session id).attached)
    (rest : handles.foldlM (fun workspace handle =>
      workspace.updateRecord model (stamped == some handle) handle) middle = .ok after) :
    Familiar id after ∧
      ∃ row, WritesRow model number (some handle) (handle :: handles) old row before after := by
  obtain ⟨held, keyed⟩ := (knows handle).mpr rfl
  obtain ⟨orderly, hasKey⟩ := familiar.attached handle held
  have ripens := ripens_updateRecord orderly hasKey first
  have stillKnows := knows.of_writes ripens.toWrites
  obtain ⟨row, placed, flushed⟩ := updateRecord_flushes orderly keyed found reads first
  have later : WritesApart id number handles middle after := by
    refine writesApart_updates (familiar.of_ripens ripens) attached (fun other listed same => ?_) rest
    have isHere := (stillKnows other).mp ⟨attached other listed, same⟩
    obtain rfl := Option.some.inj isHere
    exact once listed
  refine ⟨later.familiar, row, later.clock.trans (clockCell_updateRecord first), later.row row placed,
    fun other here => ?_, fun unknown => ?_, fun other outside => ?_⟩
  · obtain rfl := Option.some.inj here
    rwa [later.others handle once]
  · cases unknown
  · obtain ⟨different, outside⟩ := not_or.mp (mt List.mem_cons.mpr outside)
    exact (later.others other outside).trans (ripens.others other different)

theorem writesRow_updates {own : Option Handle} {stamped : Option Handle} (familiar : Familiar id before)
    (knows : KnowsBy id number own before) (found : before.table.find? number = some old)
    (reads : ∀ handle ∈ own, (before.record handle).Reads model old) (distinct : handles.Nodup)
    (attached : ∀ other ∈ handles, other ∈ (before.session id).attached)
    (unwritten : ∀ handle ∈ own, handle ∉ handles → (before.record handle).changes = [])
    (ran : handles.foldlM (fun workspace handle =>
      workspace.updateRecord model (stamped == some handle) handle) before = .ok after) :
    Familiar id after ∧ ∃ row, WritesRow model number own handles old row before after := by
  induction handles generalizing before with
  | nil =>
      obtain rfl := Except.ok.inj ran
      exact ⟨familiar, old, rfl, found, fun handle isOwn =>
        (reads handle isOwn).flushed (unwritten handle isOwn List.not_mem_nil), fun _ => rfl, fun _ _ => rfl⟩
  | cons handle handles ih =>
      obtain ⟨once, distinct⟩ := List.nodup_cons.mp distinct
      rw [List.foldlM_cons] at ran
      obtain ⟨middle, first, rest⟩ := bind_eq_ok_iff.mp ran
      have held := attached handle List.mem_cons_self
      obtain ⟨orderly, hasKey⟩ := familiar.attached handle held
      have ripens := ripens_updateRecord orderly hasKey first
      have stillAttached : ∀ other ∈ handles, other ∈ (middle.session id).attached := fun other later => by
        rw [session, ripens.sessions]
        exact attached other (List.mem_cons_of_mem _ later)
      by_cases isOwn : own = some handle
      · obtain rfl := isOwn
        exact writesRow_own familiar knows once found (reads handle rfl) first stillAttached rest
      · have passes : WritesApart id number [handle] before middle := by
          refine writesApart_updates familiar (fun other listed => ?_) (fun other listed same => ?_)
            (by rw [List.foldlM_cons, first]; rfl)
          · exact List.mem_singleton.mp listed ▸ held
          · obtain rfl := List.mem_singleton.mp listed
            exact isOwn ((knows other).mp ⟨held, same⟩)
        have kept (other : Handle) (here : own = some other) : middle.record other = before.record other :=
          ripens.others other fun same => isOwn (same ▸ here)
        obtain ⟨still, row, wrote⟩ := ih (familiar.of_ripens ripens) (knows.of_writes ripens.toWrites)
          (passes.row old found)
          (fun other here => (kept other here).symm ▸ reads other here) distinct stillAttached
          (fun other here outside => (kept other here).symm ▸ unwritten other here (by
            rw [List.mem_cons, not_or]
            exact ⟨fun same => isOwn (same ▸ here), outside⟩)) rest
        refine ⟨still, row, wrote.clock.trans passes.clock, wrote.placed, fun other here => ?_, wrote.stays,
          fun other outside => ?_⟩
        · exact kept other here ▸ wrote.flushed other here
        · obtain ⟨different, outside⟩ := not_or.mp (mt List.mem_cons.mpr outside)
          exact (wrote.others other outside).trans (ripens.others other different)

theorem writesRow_writeRecords {own : Option Handle} {stamped : Option Handle} {changed : List Handle}
    (familiar : Familiar id before) (knows : KnowsBy id number own before)
    (found : before.table.find? number = some old)
    (reads : ∀ handle ∈ own, (before.record handle).Reads model old) (distinct : changed.Nodup)
    (attached : ∀ other ∈ changed, other ∈ (before.session id).attached)
    (unwritten : ∀ handle ∈ own, handle ∉ changed → (before.record handle).changes = [])
    (ran : before.writeRecords model stamped changed (before.session id).pending = .ok after) :
    (∃ row, WritesRow model number own (changed ++ (before.session id).pending) old row before after) ∧
      ∀ other ∈ (before.session id).pending,
        (before.record other).get? Attribute.identity.name ≠ some (.integer number) ∧
          (after.record other).get? Attribute.identity.name ≠ some (.integer number) := by
  obtain ⟨middle, updates, inserts⟩ := bind_eq_ok_iff.mp ran
  obtain ⟨updated, row, wrote⟩ :=
    writesRow_updates familiar knows found reads distinct attached unwritten updates
  have sessions : middle.sessions = before.sessions := by
    refine (foldlM_relates Writes.refl Writes.trans ?_ updates).sessions
    exact fun _ _ _ => writes_updateRecord
  obtain ⟨passes, apart⟩ := writesApart_inserts updated (fun other waiting => by
    rwa [session, sessions]) wrote.placed inserts
  -- A record that waits to be inserted has no identity in the store yet, and so is not updated.
  have unkeyed {other : Handle} (waiting : other ∈ (before.session id).pending) :
      (before.record other).key = none := (familiar.pending other waiting).2.1
  refine ⟨⟨row, passes.clock.trans wrote.clock, passes.row row wrote.placed, fun handle isOwn => ?_,
    wrote.stays, fun other outside => ?_⟩, fun other waiting => ?_⟩
  · have notWaiting : handle ∉ (before.session id).pending := fun waiting => by
      cases (unkeyed waiting).symm.trans ((knows handle).mpr isOwn).2
    rw [passes.others handle notWaiting]
    exact wrote.flushed handle isOwn
  · obtain ⟨notChanged, notWaiting⟩ := not_or.mp (mt List.mem_append.mpr outside)
    exact (passes.others other notWaiting).trans (wrote.others other notChanged)
  · have notChanged : other ∉ changed := fun changes =>
      (familiar.attached other (attached other changes)).2 (unkeyed waiting)
    rw [← wrote.others other notChanged]
    exact apart other waiting

end Runs

section Settling

variable {own : Option Handle} {handles : List Handle}

theorem clockCell_settleRecord (id : SessionId) (handle : Handle) (workspace : Workspace) :
    (workspace.settleRecord id handle).clockCell = workspace.clockCell := by
  simp only [settleRecord]
  split
  · rfl
  · split <;> rfl

theorem nodup_taken (distinct : handles.Nodup) (keeps : Handle → Bool) :
    ((handles.filter fun other => other != handle && keeps other) ++ [handle]).Nodup := by
  rw [List.nodup_append]
  refine ⟨distinct.filter _, List.nodup_singleton handle, fun other listed last isLast alike => ?_⟩
  obtain rfl := List.mem_singleton.mp isLast
  simp [alike] at listed

theorem attached_settleRecord (known : id < workspace.sessions.length)
    (bound : handle < workspace.records.length) (keyless : (workspace.record handle).key = none)
    {settledAs : Int}
    (held : (workspace.record handle).get? Attribute.identity.name = some (.integer settledAs)) :
    ((workspace.settleRecord id handle).session id).attached =
      ((workspace.session id).attached.filter fun other =>
        other != handle && !(workspace.record other).hasKey (.integer settledAs)) ++ [handle] := by
  let settled := workspace.changeRecord handle (settledUnder settledAs)
  have itself : settled.record handle = settledUnder settledAs (workspace.record handle) :=
    record_changeRecord_self bound
  have there : id < settled.sessions.length := known
  have knownAttached : id < (settled.attach id handle).sessions.length := by
    rwa [length_sessions_attach]
  rw [settleRecord_keyless keyless held, session_changeSession_self _ knownAttached, attach,
    session_changeSession_self _ there, itself]
  refine congrArg (· ++ [handle]) (List.filter_congr fun other _ => ?_)
  by_cases same : other = handle
  · simp [same]
  · have kept : settled.record other = workspace.record other := record_changeRecord_of_ne same
    rw [kept]
    rfl

theorem knowsBy_settleRecord (known : id < workspace.sessions.length)
    (bound : handle < workspace.records.length) (ripe : (workspace.record handle).Ripe)
    (apart : (workspace.record handle).key = none →
      (workspace.record handle).get? Attribute.identity.name ≠ some (.integer number))
    (knows : KnowsBy id number own workspace) (distinct : (workspace.session id).attached.Nodup) :
    KnowsBy id number own (workspace.settleRecord id handle) ∧
      ((workspace.settleRecord id handle).session id).attached.Nodup := by
  obtain ⟨settledAs, held, ownKey⟩ := ripe
  have record : ∀ other, (workspace.settleRecord id handle).record other =
      (workspace.changeRecord handle (settledUnder settledAs)).record other :=
    record_settleRecord bound held ownKey
  have itself : (workspace.changeRecord handle (settledUnder settledAs)).record handle =
      settledUnder settledAs (workspace.record handle) := record_changeRecord_self bound
  cases key : (workspace.record handle).key with
  | some before =>
      obtain rfl := ownKey before key
      have session : (workspace.settleRecord id handle).session id = workspace.session id := by
        rw [settleRecord_keyed bound key held]
        rfl
      rw [session]
      refine ⟨fun other => ?_, distinct⟩
      rw [session, record, ← knows other]
      by_cases same : other = handle
      · subst same
        rw [itself, key]
        rfl
      · rw [record_changeRecord_of_ne same]
  | none =>
      have different : settledAs ≠ number := by
        rintro rfl
        exact apart key held
      have attached := attached_settleRecord known bound key held
      refine ⟨fun other => ?_, ?_⟩
      · rw [attached, record, ← knows other]
        by_cases same : other = handle
        · subst same
          refine iff_of_false (fun ⟨_, keyed⟩ => ?_) fun ⟨_, keyed⟩ => ?_
          · have keyed := (congrArg Record.key itself).symm.trans keyed
            exact different (Value.integer.inj (Option.some.inj keyed))
          · cases key.symm.trans keyed
        · rw [record_changeRecord_of_ne same]
          refine and_congr_left fun keyed => ?_
          have otherKey : (workspace.record other).hasKey (.integer settledAs) = false := by
            rw [Record.hasKey, keyed, Bool.eq_false_iff]
            exact fun alike => different ((same_integer_iff _ _).mp alike).symm
          simp [same, otherKey]
      · rw [attached]
        exact nodup_taken distinct _

structure SettlesApart (id : SessionId) (number : Int) (own : Option Handle) (handles : List Handle)
    (before after : Workspace) : Prop where
  familiar : Familiar id after
  knows : KnowsBy id number own after
  distinct : (after.session id).attached.Nodup
  clock : after.clockCell = before.clockCell
  table : after.table = before.table
  values : ∀ other, (after.record other).values = (before.record other).values
  others : ∀ other, other ∉ handles → after.record other = before.record other

theorem settlesApart (familiar : Familiar id workspace)
    (ripe : ∀ other ∈ handles, (workspace.record other).Orderly ∧ (workspace.record other).Ripe ∧
      other < workspace.records.length)
    (apart : ∀ other ∈ handles, (workspace.record other).key = none →
      (workspace.record other).get? Attribute.identity.name ≠ some (.integer number))
    (knows : KnowsBy id number own workspace) (distinct : (workspace.session id).attached.Nodup) :
    SettlesApart id number own handles workspace
      (handles.foldl (fun workspace handle => workspace.settleRecord id handle) workspace) := by
  induction handles generalizing workspace with
  | nil => exact ⟨familiar, knows, distinct, rfl, rfl, fun _ => rfl, fun _ _ => rfl⟩
  | cons handle handles ih =>
      obtain ⟨orderly, ready, bound⟩ := ripe handle List.mem_cons_self
      obtain ⟨stillKnows, stillDistinct⟩ := knowsBy_settleRecord familiar.known bound ready
        (apart handle List.mem_cons_self) knows distinct
      have ⟨settledAs, held, ownKey⟩ := ready
      have record : ∀ other, (workspace.settleRecord id handle).record other =
          (workspace.changeRecord handle (settledUnder settledAs)).record other :=
        record_settleRecord bound held ownKey
      have itself : (workspace.settleRecord id handle).record handle =
          settledUnder settledAs (workspace.record handle) :=
        (record handle).trans (record_changeRecord_self bound)
      have kept (other : Handle) (different : other ≠ handle) :
          (workspace.settleRecord id handle).record other = workspace.record other :=
        (record other).trans (record_changeRecord_of_ne different)
      have rest := ih (familiar_settleRecord bound familiar orderly ready) (fun other later => ?_)
        (fun other later => ?_) stillKnows stillDistinct
      · have settles : Steady id workspace _ := steady_settleRecord id handle workspace
        refine ⟨rest.familiar, rest.knows, rest.distinct, rest.clock.trans (clockCell_settleRecord _ _ _),
          rest.table.trans settles.table, fun other => (rest.values other).trans ?_, fun other outside => ?_⟩
        · by_cases same : other = handle
          · rw [same, itself]
            rfl
          · rw [kept other same]
        · obtain ⟨different, outside⟩ := not_or.mp (mt List.mem_cons.mpr outside)
          exact (rest.others other outside).trans (kept other different)
      · obtain ⟨orderlyLater, readyLater, boundLater⟩ := ripe other (List.mem_cons_of_mem _ later)
        rw [length_records_settleRecord]
        exact ⟨orderly_settleRecord bound orderly ready orderlyLater,
          ripe_settleRecord bound ready readyLater, boundLater⟩
      · intro keyless
        by_cases same : other = handle
        · rw [same, itself] at keyless
          cases keyless
        · rw [kept other same] at keyless ⊢
          exact apart other (List.mem_cons_of_mem _ later) keyless

end Settling

section Flushing

variable {own : Option Handle}

theorem KnowsBy.begun (knows : KnowsBy id number own workspace) :
    KnowsBy id number own (workspace.begun id) := by
  intro handle
  rw [attached_begun, record_begun]
  exact knows handle

theorem Familiar.begun (familiar : Familiar id workspace) : Familiar id (workspace.begun id) := by
  refine ⟨?_, fun handle waiting => ?_, fun handle held => ?_⟩
  · rw [length_sessions_begun]
    exact familiar.known
  · rw [pending_begun] at waiting
    rw [record_begun, records_begun]
    exact familiar.pending handle waiting
  · rw [attached_begun] at held
    rw [record_begun]
    exact familiar.attached handle held

theorem KnowsBy.attached? (knows : KnowsBy id number own workspace) (familiar : Familiar id workspace) :
    workspace.attached? id (.integer number) = own := by
  cases found : workspace.attached? id (.integer number) with
  | some handle =>
      have held := List.mem_of_find?_eq_some found
      obtain ⟨orderly, _⟩ := familiar.attached handle held
      exact ((knows handle).mp ⟨held, key_of_attached? orderly (.inr ⟨number, rfl⟩) found⟩).symm
  | none =>
      cases isOwn : own with
      | none => rfl
      | some handle =>
          obtain ⟨held, keyed⟩ := (knows handle).mpr isOwn
          exact absurd (Record.hasKey_of_key keyed) (List.find?_eq_none.mp found handle held)

theorem nodup_changedRecords {stamped : Option Handle} (distinct : (workspace.session id).attached.Nodup) :
    (workspace.changedRecords id stamped).Nodup :=
  (List.mergeSort_perm _ _).nodup_iff.mpr (distinct.filter _)

/-- What the flush of a session makes of the row of an identity: if the session knows the row, its record of
it is written. A record that holds the identity is that one, or it stays. -/
structure Flushes (model : Model) (id : SessionId) (number : Int) (own : Option Handle) (old row : Row)
    (before after : Workspace) : Prop where
  familiar : Familiar id after
  settled : Settled id after
  knows : KnowsBy id number own after
  distinct : (after.session id).attached.Nodup
  clock : after.clockCell = before.clockCell
  placed : after.table.find? number = some row
  flushed : ∀ handle ∈ own,
    (before.record handle).FlushedInto model old row (after.record handle)
  stays : own = none → row = old
  others : ∀ other, (before.record other).get? Attribute.identity.name = some (.integer number) →
    (∀ key ∈ (before.record other).key, key = .integer number) →
    own = some other ∨ after.record other = before.record other

theorem flushes_ok {duringQuery : Bool} (familiar : Familiar id before)
    (knows : KnowsBy id number own before) (distinct : (before.session id).attached.Nodup)
    (found : before.table.find? number = some old)
    (reads : ∀ handle ∈ own, (before.record handle).Reads model old)
    (ran : (flushWith model id none duringQuery).run before = (.ok (), after)) :
    ∃ row, Flushes model id number own old row before after := by
  have settled : Settled id after := settled_of_settledBut
    (settledBut_of_flushWith familiar.known (fun other waiting => (familiar.pending other waiting).2.1) ran)
  rcases flushWith_ok ran with ⟨nothing, _, rfl⟩ | ⟨written, wrote, rfl⟩
  · refine ⟨old, familiar, settled, knows, distinct, rfl, found, fun handle isOwn => ?_, fun _ => rfl,
      fun _ _ _ => .inr rfl⟩
    exact (reads handle isOwn).flushed (settled.unchanged handle ((knows handle).mpr isOwn).1)
  · have listed {other : Handle} (changes : other ∈ before.changedRecords id none) :
        other ∈ ((before.begun id).session id).attached := by
      rw [attached_begun]
      exact (mem_changedRecords.mp changes).1
    have start (other : Handle) : (before.begun id).record other = before.record other :=
      record_begun before id other
    rw [← pending_begun before id id] at wrote
    have writes := writes_writeRecords wrote
    obtain ⟨⟨row, wroteRow⟩, apart⟩ := writesRow_writeRecords familiar.begun knows.begun
      ((table_begun before id).symm ▸ found) (fun handle isOwn => (start handle).symm ▸ reads handle isOwn)
      (nodup_changedRecords distinct) (fun other => listed) (fun handle isOwn outside => by
        rw [start]
        refine by_contra fun changes => outside ?_
        exact mem_changedRecords.mpr ⟨((knows handle).mpr isOwn).1, .inl changes⟩) wrote
    obtain ⟨still, ripe⟩ := ripe_of_writeRecords (fun familiar => familiar) Familiar.of_ripens
      familiar.begun (fun other => listed) wrote
    have session : written.session id = (before.begun id).session id := by
      rw [Workspace.session, writes.sessions, Workspace.session]
    rw [pending_begun] at apart ripe wroteRow
    -- What was written is known to the session, or waits.
    have ready (other : Handle)
        (among : other ∈ before.changedRecords id none ++ (before.session id).pending) :
        (written.record other).Orderly ∧ other < written.records.length ∧
          ((written.record other).key = none → other ∈ (before.session id).pending) := by
      rcases List.mem_append.mp among with changes | waiting
      · obtain ⟨orderly, keyed⟩ := still.attached other (session ▸ listed changes)
        exact ⟨orderly, lt_of_keyed keyed, fun keyless => absurd keyless keyed⟩
      · obtain ⟨orderly, _, bound⟩ := still.pending other (by rwa [session, pending_begun])
        exact ⟨orderly, bound, fun _ => waiting⟩
    have settles := settlesApart still
      (fun other among => ⟨(ready other among).1, ripe other among, (ready other among).2.1⟩)
      (fun other among keyless => (apart other ((ready other among).2.2 keyless)).2)
      (knows.begun.of_writes writes) (by
        rw [session, attached_begun]
        exact distinct)
    refine ⟨row, settles.familiar, settled, settles.knows, settles.distinct, ?_, ?_,
      fun handle isOwn => ?_, wroteRow.stays, fun other held own => ?_⟩
    · rw [settles.clock, wroteRow.clock, clockCell_begun]
    · rw [settles.table]
      exact wroteRow.placed
    · exact start handle ▸ (wroteRow.flushed handle isOwn).of_values (settles.values handle)
    · by_cases among : other ∈ before.changedRecords id none ++ (before.session id).pending
      · refine .inl ?_
        rcases List.mem_append.mp among with changes | waiting
        · have held := (mem_changedRecords.mp changes).1
          obtain ⟨key, keyed⟩ := Option.ne_none_iff_exists'.mp (familiar.attached other held).2
          exact (knows other).mp ⟨held, own key keyed ▸ keyed⟩
        · exact absurd ((congrArg (Record.get? · _) (start other)).trans held) (apart other waiting).1
      · exact .inr ((settles.others other among).trans ((wroteRow.others other among).trans (start other)))

end Flushing

end Workspace

end RecordStore
