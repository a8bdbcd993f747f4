import RecordStore.Proofs.OrderlySessions

/-!
What writing does to the table in a session that knows no records: the one record that is added or saved
is one inserted row, or changes the row of its identity.
-/

namespace RecordStore

namespace Record

def Adds (model : Model) (record : Record) (before after : Table) (row : Row) : Prop :=
  ∃ given cells, record.Gives given ∧ before.insert model given cells = .ok (row, after)

theorem adds_of_inserts {model : Model} {stamped : Bool} {clock : Cell} {record : Record}
    {before after : Table} {row : Row}
    (inserts : Workspace.InsertsRow model stamped clock record before after row) :
    record.Adds model before after row := by
  obtain ⟨cells, sends, inserted⟩ := inserts
  exact ⟨_, _, Workspace.gives_of_sentAs sends, inserted⟩

def Places (record : Record) (table : Table) (row : Row) : Prop :=
  ∃ key, record.key = some key ∧ ∀ cell, Cell.bind 1 key = .ok cell → table.locate? cell = some row

theorem finds_integer {table : Table} {row : Row} (found : table.find? row.id = some row) (cell : Cell)
    (binds : Cell.bind 1 (.integer row.id) = .ok cell) : table.locate? cell = some row := by
  obtain ⟨rfl, _⟩ := Cell.bind_integer binds
  rw [Table.locate?_integer, found]

theorem Gives.finds {model : Model} {record : Record} {given : Option Cell} {cells : List (String × Cell)}
    {before after : Table} {row : Row} (gives : record.Gives given)
    (inserted : before.insert model given cells = .ok (row, after)) (cell : Cell)
    (binds : Cell.bind 1 (record.sentIdentity?.getD (.integer row.id)) = .ok cell) :
    after.locate? cell = some row := by
  obtain ⟨identified, _, _, rfl⟩ := Table.insert_ok inserted
  have found : (before.put row).find? row.id = some row := by
    rw [Table.find?_put, if_pos rfl]
  rw [Gives] at gives
  cases sent : record.sentIdentity? with
  | none =>
      rw [sent] at binds
      exact finds_integer found cell binds
  | some value =>
      rw [sent] at binds gives
      obtain ⟨other, rfl, bound⟩ := gives
      obtain rfl := Except.ok.inj (binds.symm.trans (Attribute.identity_binds_iff.mp bound))
      rw [Table.locate?_of_identityOf _ identified, found]

theorem values_setAll (values : List (String × Value)) (record : Record) :
    (record.setAll values).values = assignAll record.values values := by
  induction values generalizing record with
  | nil => rfl
  | cons entry values ih => exact ih (record.set entry.1 entry.2)

theorem expired_setAll (values : List (String × Value)) (record : Record) :
    (record.setAll values).expired = record.expired := by
  induction values generalizing record with
  | nil => rfl
  | cons entry values ih => exact ih (record.set entry.1 entry.2)

theorem get?_setAll (values : List (String × Value)) (record : Record) (name : String) :
    (record.setAll values).get? name = ((assignAll [] values).lookup name).or (record.get? name) := by
  rw [get?, values_setAll, lookup_assignAll, get?]

theorem lookup_changes_setAll (values : List (String × Value)) (record : Record) (name : String) :
    (record.setAll values).changes.lookup name = if ((assignAll [] values).lookup name).isSome then
      some ((record.changes.lookup name).getD (record.get? name)) else record.changes.lookup name := by
  induction values generalizing record with
  | nil => rfl
  | cons entry values ih =>
      obtain ⟨other, value⟩ := entry
      have step : record.setAll ((other, value) :: values) = (record.set other value).setAll values := rfl
      rw [step, ih, assignAll_cons, lookup_assignAll name values (assign other value [])]
      by_cases same : name = other
      · subst same
        rw [lookup_changes_set_self, lookup_assign_self]
        simp
      · rw [lookup_changes_set_of_ne same, get?_set_of_ne same, lookup_assign_of_ne same,
          List.lookup_nil, Option.or_none]

theorem rowIdentity_setAll (values : List (String × Value)) {record : Record} {id : Value}
    (unchanged : record.changes.lookup Attribute.identity.name = none)
    (held : record.get? Attribute.identity.name = some id) :
    (record.setAll values).rowIdentity = id := by
  have holds := get?_setAll values record Attribute.identity.name
  have changed := lookup_changes_setAll values record Attribute.identity.name
  rw [held] at holds changed
  rw [unchanged] at changed
  cases given : (assignAll [] values).lookup Attribute.identity.name with
  | none =>
      rw [given] at holds changed
      simp [rowIdentity, changed, holds]
  | some value =>
      rw [given] at changed
      simp [rowIdentity, changed]

def copy (record : Record) : Record := ({ values := [] } : Record).setAll record.values

theorem get?_copy (record : Record) (name : String) :
    record.copy.get? name = (assignAll [] record.values).lookup name := by
  rw [copy, get?, values_setAll]

theorem get?_copy_of_distinct {record : Record} (distinct : Distinct record.values) (name : String) :
    record.copy.get? name = record.get? name := by
  rw [get?_copy, lookup_assignAll_nil name distinct, get?]

/-- Whether the store saved the attributes of a record: it changed the row of the record's identity by
what the record holds, or it inserted a row because there was none. -/
inductive StoredAs (model : Model) (record : Record) (before after : Table) (row : Row) : Prop
  | updated (cell : Cell) (old : Row) (sent : List (Attribute × Cell)) (moment : List (String × Cell))
      (binds : Cell.bind 1 (Workspace.mergeKey record) = .ok cell)
      (located : before.locate? cell = some old)
      (sends : Workspace.SentAs
        (Workspace.sentChanges model true ((Record.ofRow model old).setAll record.values)) sent)
      (onlyMoment : ∀ entry ∈ moment, entry.1 = Attribute.updated.column)
      (accepted : before.update model old (Workspace.cellOf? .identity sent)
        (Workspace.storedCells sent ++ moment) = .ok (row, after))
  | inserted (cell : Cell) (binds : Cell.bind 1 (Workspace.mergeKey record) = .ok cell)
      (unlocated : before.locate? cell = none)
      (adds : record.copy.Adds model before after row)

section Stored

variable {model : Model} {record : Record} {before after : Table} {row : Row} {number : Int}

theorem Adds.id_eq (adds : record.Adds model before after row)
    (sent : record.sentIdentity? = some (.integer number)) : row.id = number := by
  obtain ⟨given, cells, gives, inserted⟩ := adds
  rw [Gives, sent] at gives
  obtain ⟨cell, rfl, binds⟩ := gives
  obtain ⟨rfl, _⟩ := Attribute.identity_binds_integer binds
  obtain ⟨identified, _⟩ := Table.insert_ok inserted
  exact (Except.ok.inj identified).symm

theorem Adds.puts (adds : record.Adds model before after row) :
    before.find? row.id = none ∧ after = before.put row := by
  obtain ⟨given, cells, _, inserted⟩ := adds
  obtain ⟨_, _, new, put⟩ := Table.insert_ok inserted
  exact ⟨new, put⟩

theorem Adds.mem (adds : record.Adds model before after row) : row ∈ after.rows := by
  obtain ⟨_, rfl⟩ := adds.puts
  exact before.mem_put row

theorem netChange?_setAll {attr : Attribute} (listed : attr ∈ model.attributes) (old : Row) :
    ((Record.ofRow model old).setAll record.values).netChange? attr =
      match record.copy.get? attr.name with
      | some value => if value.same (old.value attr) then none else some (attr, value)
      | none => none := by
  have holds := get?_setAll record.values (Record.ofRow model old) attr.name
  have changed := lookup_changes_setAll record.values (Record.ofRow model old) attr.name
  have read : (Record.ofRow model old).get? attr.name = some (old.value attr) := old.lookup_values listed
  have unchanged : (Record.ofRow model old).changes.lookup attr.name = none := rfl
  rw [read] at holds changed
  rw [unchanged] at changed
  rw [← get?_copy] at holds changed
  rw [netChange?, changed, holds]
  cases record.copy.get? attr.name with
  | none => rfl
  | some value => rfl

theorem StoredAs.own (stored : record.StoredAs model before after row)
    (held : record.copy.get? Attribute.identity.name = some (.integer number))
    (key : Workspace.mergeKey record = .integer number) :
    row.id = number ∧ ∀ id, after.find? id = if id = number then some row else before.find? id := by
  cases stored with
  | updated cell old sent moment binds located sends _ accepted =>
      rw [key] at binds
      obtain ⟨rfl, _⟩ := Cell.bind_integer binds
      rw [Table.locate?_integer] at located
      obtain ⟨listed, rfl⟩ := Table.find?_eq_some_iff.mp located
      -- The identity was set to what it was, which is no change.
      have unchanged : ((Record.ofRow model old).setAll record.values).netChange? .identity = none := by
        have same : (Value.integer old.id).same (old.value .identity) = true :=
          (Workspace.same_integer_iff old.id old.id).mpr rfl
        rw [netChange?_setAll model.identity_mem, held]
        simp only [same, if_true]
      have given := Workspace.cellOf?_of_sentAs sends .identity
      rw [Workspace.find?_sentChanges true _ model.identity_mem (by decide), unchanged] at given
      rw [given] at accepted
      exact Table.update_in_place listed accepted
  | inserted cell _ _ adds =>
      have sent : record.copy.sentIdentity? = some (.integer number) := by
        rw [sentIdentity?, held]
      obtain rfl := adds.id_eq sent
      obtain ⟨_, rfl⟩ := adds.puts
      exact ⟨rfl, fun id => Table.find?_put before row id⟩

end Stored

end Record

namespace Workspace

variable {model : Model} {id : SessionId} {before after workspace : Workspace} {record : Handle}

structure Fresh (id : SessionId) (workspace : Workspace) : Prop extends Ready id workspace where
  unknown : (workspace.session id).attached = []

theorem Fresh.begun (fresh : Fresh id workspace) : Fresh id (workspace.begun id) :=
  ⟨(reads_begun fresh.known).ready fresh.toReady, (attached_begun workspace id id).trans fresh.unknown⟩

theorem Fresh.attached? (fresh : Fresh id workspace) (key : Value) : workspace.attached? id key = none := by
  rw [Workspace.attached?, fresh.unknown]
  rfl

theorem Fresh.not_owner (fresh : Fresh id workspace) {owner : SessionId}
    (owned : workspace.owner? record = some owner) : owner ≠ id := by
  rintro rfl
  rcases knows_of_owner owned with held | waiting
  · rw [fresh.unknown] at held
    cases held
  · rw [fresh.settled.noPending] at waiting
    cases waiting

section Adding

theorem add_fresh (fresh : Fresh id before) (keyless : (before.record record).key = none)
    (ran : (add model id record).run before = (.ok (), after)) : after = before.awaiting id record := by
  simp only [add, Action.run_bind, Action.run_get, keyless] at ran
  split at ran
  · rename_i owner owned
    split at ran
    · rename_i same
      exact absurd same (fresh.not_owner owned)
    · cases ran
  · exact (Prod.mk.inj ran).2.symm
  · rename_i key _ keyed
    cases keyed

theorem add_known (fresh : Fresh id before) (keyed : (before.record record).key ≠ none)
    (ran : (add model id record).run before = (.ok (), after)) : after = before.attach id record := by
  simp only [add, Action.run_bind, Action.run_get] at ran
  split at ran
  · rename_i owner owned
    split at ran
    · rename_i same
      exact absurd same (fresh.not_owner owned)
    · cases ran
  · rename_i _ keyless
    exact absurd keyless keyed
  · split at ran
    · cases ran
    · split at ran
      · cases ran
      · exact (Prod.mk.inj ran).2.symm

theorem session_awaiting (fresh : Fresh id workspace) (record : Handle) :
    (workspace.awaiting id record).session id = { workspace.session id with pending := [record] } := by
  rw [awaiting, session_changeSession_self _ fresh.known, fresh.settled.noPending]
  rfl

theorem changedRecords_unknown {stamped : Option Handle} (unknown : (workspace.session id).attached = []) :
    workspace.changedRecords id stamped = [] := by
  simp [changedRecords, unknown]

theorem refresh_row {row : Row} (settled : Settled id before)
    (places : (before.record record).Places before.table row)
    (ran : (refresh model id record).run before = (.ok (), after)) :
    (after.record record).values = row.values model ∧ after.table = before.table := by
  obtain ⟨cell, other, binds, located, rfl⟩ := refresh_reads settled ran
  obtain ⟨key, keyed, finds⟩ := places
  rw [keyed] at binds
  obtain rfl := Option.some.inj (located.symm.trans (finds cell binds))
  have known : record < (before.begun id).records.length := by
    rw [records_begun]
    exact lt_of_key_eq keyed
  refine ⟨?_, table_begun _ _⟩
  rw [record_changeRecord_self known]
  rfl

end Adding

section Merging

theorem run_loadIdentity (model : Model) (fresh : Fresh id workspace) {key : Value} {cell : Cell}
    (binds : Cell.bind 1 key = .ok cell) : (loadIdentity model id key).run workspace =
      match workspace.table.locate? cell with
      | some row => (.ok (some workspace.records.length), (workspace.begun id).introduce model id row)
      | none => (.ok none, workspace.begun id) := by
  have bound : (Action.ofStore (Cell.bind 1 key)).run (workspace.begun id) =
      (.ok cell, workspace.begun id) := by
    rw [binds]
    rfl
  rw [loadIdentity, Action.run_bind_ok (run_useTransaction_ready fresh.toReady),
    Action.run_bind_ok bound, Action.run_bind_ok (Action.run_get _), table_begun]
  cases workspace.table.locate? cell with
  | some row =>
      have loads : (loadRow model id row).run (workspace.begun id) =
          (.ok workspace.records.length, (workspace.begun id).introduce model id row) := by
        rw [run_loadRow, fresh.begun.attached?, records_begun]
      rw [Action.run_bind_ok loads]
      rfl
  | none => rfl

/-- What a merge of values makes of a session that knew no records: it is to update the record of the row
that was found, with the values set, or to insert a new record with them. -/
inductive Merged (model : Model) (id : SessionId) (values : List (String × Value)) (cell : Cell)
    (target : Handle) (workspace : Workspace) : Prop
  | found (old : Row) (located : workspace.table.locate? cell = some old)
      (held : workspace.record target = (Record.ofRow model old).setAll values)
      (attached : (workspace.session id).attached = [target])
      (noPending : (workspace.session id).pending = [])
  | missing (unlocated : workspace.table.locate? cell = none)
      (held : workspace.record target = ({ values := [] } : Record).setAll values)
      (unknown : (workspace.session id).attached = [])
      (pending : (workspace.session id).pending = [target])

theorem mergeTarget_fresh {source : Record} {target : Handle} (fresh : Fresh id before)
    (ran : (mergeTarget model id source).run before = (.ok target, after)) :
    ∃ cell, Cell.bind 1 (mergeKey source) = .ok cell ∧ after.table = before.table ∧
      target = before.records.length ∧ target < after.records.length ∧
      Merged model id [] cell target after := by
  simp only [mergeTarget] at ran
  rw [Action.run_bind_ok (Action.run_get before), fresh.attached?] at ran
  obtain ⟨found, loaded, loads, ran⟩ := Action.run_bind_ok_iff.mp ran
  obtain ⟨_, begun, begins, rest⟩ := Action.run_bind_ok_iff.mp loads
  obtain ⟨cell, middle, binds, _⟩ := Action.run_bind_ok_iff.mp rest
  obtain ⟨bound, _⟩ := Action.run_ofStore_ok_iff.mp binds
  clear begins rest binds
  rw [run_loadIdentity model fresh bound] at loads
  refine ⟨cell, bound, ?_⟩
  cases located : before.table.locate? cell with
  | some row =>
      rw [located] at loads
      obtain ⟨rfl, rfl⟩ := Action.run_pure_ok_iff.mp loads
      obtain ⟨rfl, rfl⟩ := Action.run_pure_ok_iff.mp ran
      have table : ((before.begun id).introduce model id row).table = before.table := table_begun _ _
      have length : before.records.length < ((before.begun id).introduce model id row).records.length := by
        simp [introduce, withRecord]
      refine ⟨table, rfl, length, .found row ?_ ?_ ?_ ?_⟩
      · rw [table, located]
      · rw [record_introduce, records_begun, if_pos rfl]
        rfl
      · rw [attached_introduce fresh.begun.known, records_begun, fresh.begun.unknown]
        rfl
      · exact (settled_introduce fresh.begun.known fresh.begun.settled).noPending
  | none =>
      rw [located] at loads
      obtain ⟨rfl, rfl⟩ := Action.run_pure_ok_iff.mp loads
      obtain ⟨handle, made, makes, ran⟩ := Action.run_bind_ok_iff.mp ran
      obtain ⟨_, added, adds, last⟩ := Action.run_bind_ok_iff.mp ran
      obtain ⟨rfl, rfl⟩ := Action.run_pure_ok_iff.mp last
      obtain ⟨rfl, rfl⟩ := Action.run_pure_ok_iff.mp makes
      have begun := fresh.begun
      have withNew : Fresh id ((before.begun id).withRecord { values := [] }) :=
        ⟨⟨begun.known, settled_withRecord [] begun.settled, begun.sound⟩, begun.unknown⟩
      have blank : ((before.begun id).withRecord { values := [] }).record
          (before.begun id).records.length = { values := [] } := by
        rw [record_withRecord, if_pos rfl]
      obtain rfl := add_fresh withNew (congrArg Record.key blank) adds
      have session := session_awaiting withNew (before.begun id).records.length
      refine ⟨table_begun _ _, by rw [records_begun], by simp [awaiting, withRecord],
        .missing ?_ blank ?_ ?_⟩
      · exact (congrArg (Table.locate? · cell) (table_begun before id)).trans located
      · rw [session]
        exact begun.unknown
      · rw [session]

theorem merge_fresh {target : Handle} (fresh : Fresh id before) (bound : record < before.records.length)
    (ran : (merge model id record).run before = (.ok target, after)) :
    ∃ cell, Cell.bind 1 (mergeKey (before.record record)) = .ok cell ∧ after.table = before.table ∧
      target < after.records.length ∧
      Merged model id (before.record record).values cell target after := by
  obtain ⟨_, flushed, flushes, ran⟩ := Action.run_bind_ok_iff.mp ran
  rw [flushBeforeQuery, run_flushWith_settled fresh.settled] at flushes
  obtain ⟨_, rfl⟩ := Prod.mk.inj flushes
  rw [Action.run_bind_ok (Action.run_get _)] at ran
  obtain ⟨handle, middle, targets, ran⟩ := Action.run_bind_ok_iff.mp ran
  obtain ⟨cell, binds, table, rfl, length, merged⟩ := mergeTarget_fresh fresh targets
  -- The target was made last, so that it is not the record itself.
  rw [if_pos (Nat.ne_of_gt bound)] at ran
  obtain ⟨_, edited, edits, last⟩ := Action.run_bind_ok_iff.mp ran
  obtain ⟨_, rfl⟩ := Prod.mk.inj edits
  obtain ⟨rfl, rfl⟩ := Action.run_pure_ok_iff.mp last
  refine ⟨cell, binds, table, by simpa [changeRecord] using length, ?_⟩
  cases merged with
  | found old located held attached noPending =>
      refine .found old located ?_ attached noPending
      rw [record_changeRecord_self length, held]
      rfl
  | missing unlocated held unknown pending =>
      refine .missing unlocated ?_ unknown pending
      rw [record_changeRecord_self length, held]
      rfl

end Merging

section Writing

theorem key_settleRecord {key : Value} (keyless : (workspace.record record).key = none)
    (bound : record < workspace.records.length)
    (held : (workspace.record record).get? Attribute.identity.name = some key) :
    ((workspace.settleRecord id record).record record).key = some key := by
  have settles : (workspace.settleRecord id record).record record =
      (workspace.changeRecord record fun record =>
        { record with changes := [], key := some key }).record record := by
    simp only [settleRecord, keyless, held, Option.getD_some]
    rfl
  rw [settles, record_changeRecord_self bound]

theorem inserts_fresh {stamped : Option Handle} {duringQuery : Bool}
    (unknown : (before.session id).attached = []) (pending : (before.session id).pending = [record])
    (keyless : (before.record record).key = none) (bound : record < before.records.length)
    (ran : (flushWith model id stamped duringQuery).run before = (.ok (), after)) :
    ∃ row, InsertsRow model (stamped == some record) before.clockCell (before.record record) before.table
        after.table row ∧ (after.record record).Places after.table row := by
  obtain ⟨written, wrote, rfl⟩ :=
    insertRecord_of_flushWith (changedRecords_unknown unknown) pending ran
  have settles : Steady id written (written.settleRecord id record) := steady_settleRecord id record written
  obtain ⟨row, table, inserts, rfl⟩ := insertRecord_ok wrote
  rw [record_begun, table_begun, clockCell_begun] at inserts
  obtain ⟨cells, sends, inserted⟩ := inserts
  let identity := (before.record record).sentIdentity?.getD (.integer row.id)
  let values := assign Attribute.identity.name identity (row.values model)
  have there : record < ({ before.begun id with table } : Workspace).records.length := by
    rwa [records_begun]
  have loaded : (({ before.begun id with table } : Workspace).changeRecord record
      (Record.load values)).record record = (before.record record).load values := by
    rw [record_changeRecord_self there]
    exact congrArg (Record.load values) (record_begun before id record)
  have holds : ((before.record record).load values).get? Attribute.identity.name = some identity :=
    lookup_assign_self _ _ _
  rw [settles.table, record_begun]
  refine ⟨row, ⟨cells, sends, inserted⟩, identity, ?_, (gives_of_sentAs sends).finds inserted⟩
  exact key_settleRecord ((congrArg Record.key loaded).trans keyless)
    (by simpa [changeRecord] using bound)
    ((congrArg (Record.get? · Attribute.identity.name) loaded).trans holds)

theorem updateRecord_fresh {old : Row} {values : List (String × Value)}
    (held : before.record record = (Record.ofRow model old).setAll values)
    (listed : old ∈ before.table.rows) (wrote : before.updateRecord model true record = .ok after) :
    ∃ sent moment row, SentAs (sentChanges model true ((Record.ofRow model old).setAll values)) sent ∧
      (∀ entry ∈ moment, entry.1 = Attribute.updated.column) ∧
      before.table.update model old (cellOf? .identity sent) (storedCells sent ++ moment) =
        .ok (row, after.table) ∧
      (after.record record).get? Attribute.identity.name =
        ((Record.ofRow model old).setAll values).get? Attribute.identity.name := by
  obtain ⟨reloaded, reloads, wrote⟩ := updateRecord_ok wrote
  have fresh : (before.record record).expired = false := by
    rw [held, Record.expired_setAll]
    rfl
  simp only [reloadExpired, fresh, Bool.false_eq_true, if_false] at reloads
  obtain rfl := Except.ok.inj reloads
  rcases wrote with ⟨_, unstamped, _⟩ | ⟨table, ⟨place, found, sent, moment, row, binds, located, sends,
    onlyMoment, updated⟩, wrote⟩
  · cases unstamped
  rw [held] at binds sends
  have own : ((Record.ofRow model old).setAll values).rowIdentity = .integer old.id :=
    Record.rowIdentity_setAll values rfl (old.lookup_identity model)
  rw [own] at binds
  obtain ⟨rfl, _⟩ := Attribute.identity_binds_integer binds
  rw [Table.locate?_integer, Table.find?_of_mem listed] at located
  obtain rfl := Option.some.inj located
  refine ⟨sent, moment, row, sends, onlyMoment, ?_⟩
  rw [← held]
  rcases wrote with rfl | rfl
  · exact ⟨updated, rfl⟩
  · refine ⟨updated, ?_⟩
    rw [record_changeRecord]
    split
    · exact Record.get?_unstamped _
    · rfl

theorem updates_fresh {old : Row} {values : List (String × Value)} {duringQuery : Bool}
    (held : before.record record = (Record.ofRow model old).setAll values)
    (attached : (before.session id).attached = [record]) (noPending : (before.session id).pending = [])
    (listed : old ∈ before.table.rows)
    (ran : (flushWith model id (some record) duringQuery).run before = (.ok (), after)) :
    ∃ sent moment row, SentAs (sentChanges model true ((Record.ofRow model old).setAll values)) sent ∧
      (∀ entry ∈ moment, entry.1 = Attribute.updated.column) ∧
      before.table.update model old (cellOf? .identity sent) (storedCells sent ++ moment) =
        .ok (row, after.table) ∧
      (((Record.ofRow model old).setAll values).get? Attribute.identity.name = some (.integer old.id) →
        (after.record record).key = some (.integer old.id)) := by
  have changed : before.changedRecords id (some record) = [record] := by
    simp [changedRecords, attached]
  have keyed : (before.record record).key = some (.integer old.id) := by
    rw [held, Record.key_setAll]
    rfl
  obtain ⟨written, wrote, rfl⟩ := updateRecord_of_flushWith changed noPending ran
  have settles : Steady id written (written.settleRecord id record) := steady_settleRecord id record written
  rw [beq_self_eq_true] at wrote
  have writes := writes_updateRecord wrote
  have table : (before.begun id).table = before.table := table_begun before id
  obtain ⟨sent, moment, row, sends, onlyMoment, updated, identity⟩ :=
    updateRecord_fresh ((record_begun before id record).trans held) (table ▸ listed) wrote
  rw [table] at updated
  refine ⟨sent, moment, row, sends, onlyMoment, ?_, fun kept => ?_⟩
  · rw [settles.table]
    exact updated
  · have key : (written.record record).key = some (.integer old.id) := by
      rw [writes.key, record_begun, keyed]
    have bound := lt_of_key_eq key
    rw [settleRecord_keyed bound key (identity.trans kept), record_changeRecord_self bound]
    rfl

end Writing

end Workspace

namespace Repository

open Workspace

variable {repository : Repository} {id : SessionId} {before after : Workspace} {record saved : Handle}

theorem insert_fresh (fresh : Fresh id before) (keyless : (before.record record).key = none)
    (ran : (repository.insert id record).run before = (.ok (), after)) :
    ∃ row, InsertsRow repository.model false before.clockCell (before.record record) before.table after.table
        row ∧ (after.record record).values = row.values repository.model := by
  obtain ⟨_, added, adds, ran⟩ := Action.run_bind_ok_iff.mp ran
  obtain ⟨_, flushed, flushes, refreshes⟩ := Action.run_bind_ok_iff.mp ran
  obtain rfl := add_fresh fresh keyless adds
  have session := session_awaiting fresh record
  have unknown : ((before.awaiting id record).session id).attached = [] := by
    rw [session]
    exact fresh.unknown
  have pending : ((before.awaiting id record).session id).pending = [record] := by
    rw [session]
  have knownSession : id < (before.awaiting id record).sessions.length := by
    simpa [awaiting] using fresh.known
  have waiting : (before.awaiting id record).Keyless id := by
    refine .inr fun other waiting => ?_
    rw [pending] at waiting
    obtain rfl := List.mem_singleton.mp waiting
    exact keyless
  have settled := settled_of_refresh knownSession waiting flushes refreshes
  -- A refresh needs an identity, which only a record that exists can have been given.
  have bound : record < (before.awaiting id record).records.length := by
    have there := lt_of_keyed (refresh_ok settled refreshes).2.2.2
    obtain ⟨written, wrote, rfl⟩ :=
      insertRecord_of_flushWith (changedRecords_unknown unknown) pending flushes
    rwa [length_records_settleRecord, (writes_insertRecord wrote).length, records_begun] at there
  obtain ⟨row, inserts, places⟩ := inserts_fresh unknown pending keyless bound flushes
  rw [(refresh_ok settled refreshes).1]
  exact ⟨row, inserts, (refresh_row settled places refreshes).1⟩

/-- A record is saved in a fresh session by changing the row of its identity, or by inserting a row if
there is none. The record that is given then holds the row, if the saved one held the row's identity. -/
theorem saveIn_fresh (fresh : Fresh id before) (bound : record < before.records.length)
    (ran : (repository.saveIn record id).run before = (.ok saved, after)) :
    ∃ row, (before.record record).StoredAs repository.model before.table after.table row ∧
      ∀ number, (before.record record).copy.get? Attribute.identity.name = some (.integer number) →
        mergeKey (before.record record) = .integer number →
        (after.record saved).values = row.values repository.model := by
  obtain ⟨merged, middle, merges, ran⟩ := Action.run_bind_ok_iff.mp ran
  obtain ⟨_, flushed, flushes, ran⟩ := Action.run_bind_ok_iff.mp ran
  obtain ⟨_, refreshed, refreshes, last⟩ := Action.run_bind_ok_iff.mp ran
  obtain ⟨rfl, rfl⟩ := Action.run_pure_ok_iff.mp last
  obtain ⟨_, left, _⟩ := merge_ok fresh.known fresh.settled merges
  have keyless : middle.Keyless id := .inr fun handle waiting => (left.pending handle waiting).2
  have settled := settled_of_refresh left.known keyless flushes refreshes
  obtain ⟨cell, binds, same, length, merged⟩ := merge_fresh fresh bound merges
  have table := (refresh_ok settled refreshes).1
  rw [← same, table]
  cases merged with
  | found old located held attached noPending =>
      have listed := List.mem_of_find?_eq_some located
      obtain ⟨sent, moment, row, sends, onlyMoment, accepted, settles⟩ :=
        updates_fresh held attached noPending listed flushes
      have stored : (before.record record).StoredAs repository.model middle.table flushed.table row :=
        .updated cell old sent moment binds located sends onlyMoment accepted
      refine ⟨row, stored, fun number own key => ?_⟩
      obtain ⟨rfl, found⟩ := stored.own own key
      rw [key] at binds
      obtain ⟨rfl, _⟩ := Cell.bind_integer binds
      rw [Table.locate?_integer] at located
      have same : old.id = row.id := (Table.find?_eq_some_iff.mp located).2
      rw [same] at settles
      have set := Record.get?_setAll (before.record record).values (Record.ofRow repository.model old)
        Attribute.identity.name
      rw [← Record.get?_copy, own, Option.some_or] at set
      have there : flushed.table.find? row.id = some row := by
        rw [found, if_pos rfl]
      have places : (flushed.record merged).Places flushed.table row :=
        ⟨_, settles set, Record.finds_integer there⟩
      exact (refresh_row settled places refreshes).1
  | missing unlocated held unknown pending =>
      have keyless : (middle.record merged).key = none := by
        rw [held, Record.key_setAll]
      obtain ⟨row, inserts, places⟩ := inserts_fresh unknown pending keyless length flushes
      rw [held] at inserts
      exact ⟨row, .inserted cell binds unlocated (Record.adds_of_inserts inserts), fun _ _ _ =>
        (refresh_row settled places refreshes).1⟩

end Repository
end RecordStore
