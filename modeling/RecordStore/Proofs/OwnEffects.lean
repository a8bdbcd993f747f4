import RecordStore.Proofs.FilterMeaning
import RecordStore.Proofs.FreshSessions
import RecordStore.Proofs.OrderlyCalls

/-!
What calls without a unit of work do to the table: every one of them works in a fresh session of its own,
so that it changes one row at most.
-/

namespace RecordStore

def Record.Unidentified (record : Record) : Prop :=
  record.get? Attribute.identity.name = some .null ∨
    record.get? Attribute.identity.name = none ∧ record.expired = false

theorem Record.Unidentified.sentIdentity? {record : Record} (unidentified : record.Unidentified) :
    record.sentIdentity? = none := by
  rcases unidentified with held | ⟨missing, _⟩
  · rw [Record.sentIdentity?, held]
  · rw [Record.sentIdentity?, missing]

theorem Record.Unidentified.clears {record : Record} (unidentified : record.Unidentified)
    {entry : Attribute × Value} (change : record.netChange? .identity = some entry) :
    entry = (.identity, .null) := by
  obtain ⟨_, _, own, held, _⟩ := netChange?_eq_some change
  rcases unidentified with null | ⟨missing, _⟩
  · exact Prod.ext own (Option.some.inj (held.symm.trans null))
  · rw [missing] at held
    cases held

theorem isNewIdentity_iff {id : Value} :
    isNewIdentity (some id) = true ↔ id = .null ∨ id.isZero = true := by
  cases id with
  | null => simp [isNewIdentity]
  | _ => simp [isNewIdentity]

theorem Selection.mem_of_mem_select {selection : Selection} {rows : List Row} {row : Row}
    (listed : row ∈ selection.select rows) : row ∈ rows := by
  have kept : row ∈ (rows.filter (Predicate.allHold selection.predicates)).mergeSort
      (mayPrecede selection.order) := by
    simp only [select, cutWindow] at listed
    split at listed
    · exact List.mem_of_mem_drop (List.mem_of_mem_take listed)
    · exact List.mem_of_mem_drop listed
  exact (List.mem_filter.mp (List.mem_mergeSort.mp kept)).1

namespace Repository

open Workspace UnitOfWork

variable {α : Type} {repository : Repository} {workspace before after : Workspace} {id : SessionId}
  {record : Handle}

section Sessions

theorem fresh_opened (workspace : Workspace) :
    Fresh (sessionIn none workspace) (opened none workspace) := by
  have ready := ready_withSession workspace
  refine ⟨(reads_begun ready.known).ready ready, ?_⟩
  rw [opened, attached_begun, sessionIn, Option.getD_none, session_withSession]

theorem record_opened (workspace : Workspace) (record : Handle) :
    (opened none workspace).record record = workspace.record record := by
  rw [opened_none]
  rfl

theorem changing_ok {body : SessionId → Action Workspace α} {value : α}
    (withheld : ∀ id, Action.Moves (Withheld repository.model id) (body id))
    (ends : ∀ id start value inside, Fresh id start → (body id).run start = (.ok value, inside) →
      Settled id inside ∧ ¬inside.Rejected id)
    (ran : (repository.changing none body).run workspace = (.ok value, after)) :
    ∃ inside, (body (sessionIn none workspace)).run (opened none workspace) = (.ok value, inside) ∧
      after.records = inside.records ∧ after.table = inside.table := by
  cases worked : (body (sessionIn none workspace)).run (opened none workspace) with
  | mk outcome inside =>
      cases outcome with
      | error failure =>
          obtain ⟨_, fails, _⟩ := run_changing_error withheld worked
          rw [fails] at ran
          cases ran
      | ok other =>
          obtain ⟨settled, accepted⟩ := ends _ _ other inside (fresh_opened workspace) worked
          obtain ⟨last, succeeds, records, table⟩ := run_changing_ok repository worked settled accepted
          rw [succeeds] at ran
          obtain ⟨rfl, rfl⟩ := Action.run_pure_ok_iff.mp ran
          exact ⟨inside, rfl, records, table⟩

theorem noted_ok {verb : String} {value result : α}
    (ran : ((do
      repository.debugRecord verb record
      pure value : Action Workspace α)).run before = (.ok result, after)) :
    result = value ∧ after.records = before.records ∧ after.table = before.table := by
  obtain ⟨_, noted, notes, last⟩ := Action.run_bind_ok_iff.mp ran
  obtain ⟨same, rfl⟩ := Prod.mk.inj last
  obtain ⟨journal, rfl⟩ := debugRecord_ok notes
  exact ⟨(Except.ok.inj same).symm, rfl, rfl⟩

theorem run_readIdentity {model : Model} {identity : Value}
    (held : (workspace.record record).get? Attribute.identity.name = some identity) :
    (readIdentity model record).run workspace = (.ok identity, workspace) := by
  simp only [readIdentity, Action.run_bind, Action.run_get, held]
  rfl

theorem record_of_records {other : Workspace} (same : other.records = workspace.records)
    (record : Handle) : other.record record = workspace.record record := by
  rw [Workspace.record, same, Workspace.record]

end Sessions

section Creating

def ChangesRow (before after : Table) : Prop :=
  ∃ old row, old ∈ before.rows ∧ row.id = old.id ∧
    ∀ id, after.find? id = if id = row.id then some row else before.find? id

/-- How a record that holds no identity is created. If the store does not know it, it is inserted as one
row; otherwise a row was changed, as far as the record was. -/
inductive Creates (model : Model) (source : Record) (record : Handle) (before : Table)
    (after : Workspace) : Prop
  | inserted (row : Row) (keyless : source.key = none)
      (adds : source.Adds model before after.table row)
      (values : (after.record record).values = row.values model)
  | known (keyed : source.key ≠ none) (unchanged : source.netChange? .identity = none)
      (effect : after.table = before ∨ ChangesRow before after.table)
      (holds : HoldsRow model record after)

theorem netChange?_reloadExpired {model : Model} {reloaded : Workspace}
    (unidentified : (workspace.record record).Unidentified)
    (ran : workspace.reloadExpired model record = .ok reloaded) :
    (reloaded.record record).netChange? .identity = (workspace.record record).netChange? .identity := by
  simp only [reloadExpired] at ran
  split at ran
  · rename_i expired
    obtain ⟨cell, _, located⟩ := bind_eq_ok_iff.mp ran
    split at located
    · rename_i row found
      obtain rfl := Except.ok.inj located
      rcases unidentified with held | ⟨_, fresh⟩
      · rw [record_changeRecord]
        split
        · have kept : ((workspace.record record).fill (row.values model)).get? Attribute.identity.name =
              some .null := by
            rw [Record.get?_fill, held, Option.some_or]
          have same : ((workspace.record record).fill (row.values model)).changes =
              (workspace.record record).changes := rfl
          simp only [Record.netChange?, kept, held, same]
        · rfl
      · rw [fresh] at expired
        cases expired
    · cases located
  · obtain rfl := Except.ok.inj ran
    rfl

theorem changesRow_of_rewrites {model : Model} {stamped : Bool} {source : Record} {table last : Table}
    (unchanged : source.netChange? .identity = none)
    (rewrites : Rewrites model stamped source table last) : ChangesRow table last := by
  obtain ⟨place, old, cells, moment, row, _, located, sends, _, accepted⟩ := rewrites
  have listed := List.mem_of_find?_eq_some located
  have given := cellOf?_of_sentAs sends .identity
  rw [find?_sentChanges stamped source model.identity_mem (by decide), unchanged] at given
  rw [given] at accepted
  obtain ⟨same, found⟩ := Table.update_in_place listed accepted
  exact ⟨old, row, listed, same, same ▸ found⟩

theorem updateRecord_unidentified {model : Model}
    (unidentified : (before.record record).Unidentified)
    (wrote : before.updateRecord model false record = .ok after) :
    (before.record record).netChange? .identity = none ∧
      (after.table = before.table ∨ ChangesRow before.table after.table) := by
  obtain ⟨reloaded, reloads, wrote⟩ := updateRecord_ok wrote
  have same := netChange?_reloadExpired unidentified reloads
  have table := table_reloadExpired reloads
  rcases wrote with ⟨rfl, _, nothing⟩ | ⟨last, rewrites, wrote⟩
  · refine ⟨?_, .inl table⟩
    rw [← same, ← find?_sentChanges false _ model.identity_mem (by decide), nothing]
    rfl
  · have kept : (before.record record).netChange? .identity = none := by
      cases change : (before.record record).netChange? .identity with
      | none => rfl
      | some entry =>
          -- The record can only have changed its identity to null, which no update accepts.
          rw [unidentified.clears change] at change
          exact absurd rewrites (not_rewrites_of_cleared (same.trans change))
    have changes := changesRow_of_rewrites (same.trans kept) rewrites
    rw [table] at changes
    refine ⟨kept, .inr ?_⟩
    rcases wrote with rfl | rfl
    · exact changes
    · exact changes

theorem insert_known (fresh : Fresh id before) (keyed : (before.record record).key ≠ none)
    (unidentified : (before.record record).Unidentified)
    (ran : (repository.insert id record).run before = (.ok (), after)) :
    (before.record record).netChange? .identity = none ∧
      (after.table = before.table ∨ ChangesRow before.table after.table) := by
  obtain ⟨_, added, adds, ran⟩ := Action.run_bind_ok_iff.mp ran
  obtain ⟨_, flushed, flushes, refreshes⟩ := Action.run_bind_ok_iff.mp ran
  obtain rfl := add_known fresh keyed adds
  have attached : ((before.attach id record).session id).attached = [record] := by
    rw [attach, session_changeSession_self _ fresh.known]
    simp [fresh.unknown]
  have noPending : ((before.attach id record).session id).pending = [] := by
    rw [pending_attach]
    exact fresh.settled.noPending
  have keyless : (before.attach id record).Keyless id := by
    refine .inr fun other waiting => ?_
    rw [noPending] at waiting
    cases waiting
  have known : id < (before.attach id record).sessions.length := by
    rw [length_sessions_attach]
    exact fresh.known
  have settled := settled_of_refresh known keyless flushes refreshes
  rw [(refresh_ok settled refreshes).1]
  -- Only a record with changes is written.
  by_cases unchanged : (before.record record).changes = []
  · have nothing : Settled id (before.attach id record) := by
      refine ⟨noPending, fun other held => ?_⟩
      rw [attached] at held
      obtain rfl := List.mem_singleton.mp held
      exact unchanged
    rw [flush, run_flushWith_settled nothing] at flushes
    obtain ⟨_, rfl⟩ := Prod.mk.inj flushes
    refine ⟨?_, .inl rfl⟩
    simp [Record.netChange?, unchanged]
  · have changed : (before.attach id record).changedRecords id none = [record] := by
      have held : (before.attach id record).record record = before.record record := rfl
      simp [changedRecords, attached, held, unchanged]
    obtain ⟨written, wrote, rfl⟩ := updateRecord_of_flushWith changed noPending flushes
    have settles : Steady id written (written.settleRecord id record) :=
      steady_settleRecord id record written
    have held : ((before.attach id record).begun id).record record = before.record record :=
      record_begun _ _ _
    have table : ((before.attach id record).begun id).table = before.table := table_begun _ _
    rw [settles.table, ← held, ← table]
    exact updateRecord_unidentified (held ▸ unidentified) wrote

theorem setIdentity_ok {model : Model} {value : Value}
    (ran : (setAttribute model record Attribute.identity.name value).run workspace = (.ok (), after)) :
    after = workspace.changeRecord record (Record.set Attribute.identity.name value) := by
  have isAttribute : (model.attribute? Attribute.identity.name).isSome = true := by
    rw [Model.attribute?, List.find?_isSome]
    exact ⟨.identity, model.identity_mem, beq_self_eq_true _⟩
  simp only [setAttribute, if_true, isAttribute] at ran
  obtain ⟨_, start, reads, rest⟩ := Action.run_bind_ok_iff.mp ran
  obtain rfl := readIdentity_ok reads
  exact (Prod.mk.inj rest).2.symm

theorem creates_of_unidentified {created : Handle} (unidentified : (before.record record).Unidentified)
    (ran : ((do
      repository.changing none fun session => repository.insert session record
      repository.debugRecord "Created" record
      pure record : Action Workspace Handle)).run before = (.ok created, after)) :
    created = record ∧ Creates repository.model (before.record record) record before.table after := by
  obtain ⟨_, changed, changes, notes⟩ := Action.run_bind_ok_iff.mp ran
  obtain ⟨rfl, records, table⟩ := noted_ok notes
  have withheld (id : SessionId) : Action.Moves (Withheld repository.model id)
      (repository.insert id created) :=
    (tentative_insert repository id created).mono Tentative.toWithheld
  obtain ⟨inside, inserted, sameRecords, sameTable⟩ := changing_ok withheld
    (fun id start _ inside fresh ran => by
      have stored := insert_stored fresh.known (.inr fresh.settled.noPending) ran
      exact ⟨stored.settled, stored.accepted⟩) changes
  have fresh := fresh_opened before
  have start : (opened none before).table = before.table := table_opened none before
  have ended : after.table = inside.table := table.trans sameTable
  have values : (after.record created).values = (inside.record created).values :=
    congrArg Record.values (record_of_records (records.trans sameRecords) created)
  rw [← record_opened before created] at unidentified ⊢
  refine ⟨rfl, ?_⟩
  by_cases keyless : ((opened none before).record created).key = none
  · obtain ⟨row, inserts, holds⟩ := insert_fresh fresh keyless inserted
    have adds := Record.adds_of_inserts inserts
    exact .inserted row keyless (by rwa [ended, ← start]) (values.trans holds)
  · obtain ⟨kept, effect⟩ := insert_known fresh keyless unidentified inserted
    obtain ⟨row, listed, holds⟩ :=
      (insert_stored fresh.known (.inr fresh.settled.noPending) inserted).holds
    refine .known keyless kept (by rwa [ended, ← start]) ⟨row, ?_, values.trans holds⟩
    rwa [ended]

/-- A record is created without an identity: it held none or null, or was set to null because it held zero. -/
theorem create_ok {created : Handle}
    (ran : (repository.create record none).run workspace = (.ok created, after)) :
    created = record ∧ ∃ start : Workspace,
      (start = workspace ∨
        start = workspace.changeRecord record (Record.set Attribute.identity.name .null)) ∧
      (start.record record).Unidentified ∧
      Creates repository.model (start.record record) record workspace.table after := by
  obtain ⟨identity, start, reads, rest⟩ := Action.run_bind_ok_iff.mp ran
  obtain rfl := readIdentity_ok reads
  split at rest
  · obtain ⟨_, _, _, failed⟩ := Action.run_bind_ok_iff.mp rest
    cases failed
  · rename_i isNew
    split at rest
    · obtain ⟨_, cleared, clears, adds⟩ := Action.run_bind_ok_iff.mp rest
      obtain rfl := setIdentity_ok clears
      have unidentified : ((workspace.changeRecord record
          (Record.set Attribute.identity.name .null)).record record).Unidentified := by
        rw [record_changeRecord]
        split
        · exact .inl (Record.get?_set_self _ _ _)
        · rename_i unknown
          rw [record_of_le (Nat.not_lt.mp fun bound => unknown ⟨rfl, bound⟩)]
          exact .inr ⟨rfl, rfl⟩
      obtain ⟨same, effect⟩ := creates_of_unidentified unidentified adds
      exact ⟨same, _, .inr rfl, unidentified, effect⟩
    · rename_i notZero
      have null : identity = .null := by
        rw [Bool.not_eq_true, Bool.not_eq_false', isNewIdentity_iff] at isNew
        exact isNew.resolve_right notZero
      have unidentified : (workspace.record record).Unidentified := by
        rcases readIdentity_get? reads with held | ⟨missing, _, fresh⟩
        · exact .inl (null ▸ held)
        · exact .inr ⟨missing, fresh⟩
      obtain ⟨same, effect⟩ := creates_of_unidentified unidentified rest
      exact ⟨same, _, .inl rfl, unidentified, effect⟩

end Creating

section Saving

theorem save_inside {saved : Handle}
    (ran : (repository.save record none).run workspace = (.ok saved, after)) : ∃ identity inside,
      (workspace.record record).get? Attribute.identity.name = some identity ∧
      isNewIdentity (some identity) = false ∧
      (repository.saveIn record (sessionIn none workspace)).run (opened none workspace) =
        (.ok saved, inside) ∧ after.records = inside.records ∧ after.table = inside.table := by
  obtain ⟨identity, start, reads, rest⟩ := Action.run_bind_ok_iff.mp ran
  obtain rfl := readIdentity_ok reads
  split at rest
  · obtain ⟨_, _, _, failed⟩ := Action.run_bind_ok_iff.mp rest
    cases failed
  · rename_i notNew
    obtain ⟨merged, changed, changes, notes⟩ := Action.run_bind_ok_iff.mp rest
    obtain ⟨rfl, records, table⟩ := noted_ok notes
    have withheld (id : SessionId) : Action.Moves (Withheld repository.model id)
        (repository.saveIn record id) :=
      (tentative_saveIn repository id record).mono Tentative.toWithheld
    obtain ⟨inside, stored, sameRecords, sameTable⟩ := changing_ok withheld
      (fun id start _ inside fresh ran => by
        have stored := saveIn_stored fresh.known (.inr fresh.settled.noPending) ran
        exact ⟨stored.settled, stored.accepted⟩) changes
    rw [Bool.not_eq_true] at notNew
    have held : (workspace.record record).get? Attribute.identity.name = some identity := by
      rcases readIdentity_get? reads with held | ⟨_, rfl, _⟩
      · exact held
      · cases notNew
    exact ⟨identity, inside, held, notNew, stored, records.trans sameRecords, table.trans sameTable⟩

/-- A record that is saved holds an identity. Its row is changed, or inserted if there is none; the
record that is given holds a row, namely this one if the saved one held the identity of its row. -/
theorem save_ok {saved : Handle}
    (ran : (repository.save record none).run workspace = (.ok saved, after)) : ∃ identity row,
      (workspace.record record).get? Attribute.identity.name = some identity ∧
      isNewIdentity (some identity) = false ∧
      (workspace.record record).StoredAs repository.model workspace.table after.table row ∧
      HoldsRow repository.model saved after ∧
      ∀ number, (workspace.record record).copy.get? Attribute.identity.name = some (.integer number) →
        mergeKey (workspace.record record) = .integer number →
        (after.record saved).values = row.values repository.model := by
  obtain ⟨identity, inside, held, notNew, stored, records, table⟩ := save_inside ran
  have fresh := fresh_opened workspace
  have ends (other : Handle) : after.record other = inside.record other := record_of_records records other
  have bound : record < (opened none workspace).records.length := by
    refine Nat.not_le.mp fun unknown => ?_
    rw [← record_opened, record_of_le unknown] at held
    cases held
  obtain ⟨row, wrote, values⟩ := saveIn_fresh fresh bound stored
  obtain ⟨other, listed, shown⟩ :=
    (saveIn_stored fresh.known (.inr fresh.settled.noPending) stored).holds
  rw [record_opened] at wrote values
  rw [← table_opened none workspace, table]
  refine ⟨identity, row, held, notNew, wrote, ⟨other, ?_, ?_⟩, fun number own key => ?_⟩
  · rw [table]
    exact listed
  · rw [ends]
    exact shown
  · rw [ends]
    exact values number own key

end Saving

section Deleting

theorem delete_ok (ran : (repository.delete record none).run workspace = (.ok (), after)) :
    ∃ identity, (readIdentity repository.model record).run workspace = (.ok identity, workspace) ∧
      Token.checkBindings ((rowsOf identity).tokens (.adapter .sqlite) repository.model) = .ok () ∧
      after.table = workspace.table.removeWhere fun row => (rowsOf identity).holds row := by
  obtain ⟨_, changed, changes, notes⟩ := Action.run_bind_ok_iff.mp ran
  obtain ⟨journal, rfl⟩ := debugRecord_ok notes
  have withheld (id : SessionId) : Action.Moves (Withheld repository.model id)
      (repository.deleteIn record id) :=
    ((tentative_steps repository id).moves_deleteIn record).mono Tentative.toWithheld
  obtain ⟨inside, deleted, _, table⟩ := changing_ok withheld (fun id start _ inside fresh ran => by
    obtain ⟨identity, _, _, rfl, accepted⟩ := deleteIn_ok fresh.known fresh.settled ran
    rw [erase_unknown identity fresh.begun.unknown] at accepted ⊢
    exact ⟨⟨fresh.begun.settled.noPending, fresh.begun.settled.unchanged⟩, accepted⟩) changes
  have fresh := fresh_opened workspace
  obtain ⟨identity, reads, bindable, rfl, _⟩ := deleteIn_ok fresh.known fresh.settled deleted
  refine ⟨identity, ?_, bindable, ?_⟩
  · obtain ⟨_, _, same⟩ := apart_readIdentity repository.model record workspace
    rw [reads] at same
    obtain ⟨same, _⟩ := Prod.mk.inj same
    exact Prod.ext same.symm (state_readIdentity repository.model record workspace)
  · rw [erase_unknown identity fresh.begun.unknown] at table
    exact table.trans (by rw [table_begun, table_opened])

theorem holds_rowsOf_null (row : Row) : (rowsOf .null).holds row = false := by
  rw [rowsOf, Predicate.holds_ofTest]
  simp [Test.equals, Test.holds, Row.cell]

theorem checkBindings_rowsOf_integer {model : Model} {number : Int} :
    Token.checkBindings ((rowsOf (.integer number)).tokens (.adapter .sqlite) model) = .ok () ↔
      Cell.fits number = true := by
  have places : Token.places ((rowsOf (.integer number)).tokens (.adapter .sqlite) model) =
      [(Attribute.identity.bindType.against (.integer number), .integer number)] := rfl
  have type : Attribute.identity.bindType.against (.integer number) = .bigInteger := by
    simp only [BindType.against, BindType.ofValue]
    split <;> rfl
  rw [Token.checkBindings_ok_iff, places, type]
  constructor
  · intro bindable
    obtain ⟨prepared, cell, prepares, binds⟩ := bindable _ List.mem_cons_self
    obtain rfl := Except.ok.inj prepares
    exact (Cell.bind_integer binds).2
  · intro fits place listed
    obtain rfl := List.mem_singleton.mp listed
    exact ⟨.integer number, .integer number, rfl, by simp [Cell.bind, fits]⟩

theorem checkBindings_rowsOf_null (model : Model) :
    Token.checkBindings ((rowsOf .null).tokens (.adapter .sqlite) model) = .ok () := by
  have places : Token.places ((rowsOf .null).tokens (.adapter .sqlite) model) = [] := rfl
  rw [Token.checkBindings_ok_iff, places]
  exact fun place listed => absurd listed List.not_mem_nil

theorem run_delete {identity : Value}
    (reads : (readIdentity repository.model record).run workspace = (.ok identity, workspace))
    (bindable : Token.checkBindings ((rowsOf identity).tokens (.adapter .sqlite) repository.model) =
      .ok ()) : ∃ after, (repository.delete record none).run workspace = (.ok (), after) := by
  have fresh := fresh_opened workspace
  have readsInside : (readIdentity repository.model record).run (opened none workspace) =
      (.ok identity, opened none workspace) := by
    obtain ⟨_, _, same⟩ := apart_readIdentity repository.model record workspace
    rw [same, reads]
  have checks : (Action.ofStore (Token.checkBindings ((rowsOf identity).tokens (.adapter .sqlite)
      repository.model))).run ((opened none workspace).begun (sessionIn none workspace)) =
      (.ok (), (opened none workspace).begun (sessionIn none workspace)) := by
    rw [bindable]
    rfl
  have deletes : (repository.deleteIn record (sessionIn none workspace)).run (opened none workspace) =
      (.ok (), ((opened none workspace).begun (sessionIn none workspace)).erase
        (sessionIn none workspace) identity) := by
    rw [deleteIn, Action.run_bind_ok readsInside, deleteIdentity_eq,
      Action.run_bind_ok (run_prepareQuery _ fresh.toReady), Action.run_bind_ok checks]
    rfl
  obtain ⟨_, _, _, _, accepted⟩ := deleteIn_ok fresh.known fresh.settled deletes
  rw [erase_unknown identity fresh.begun.unknown] at deletes accepted
  obtain ⟨changed, succeeds, records, _⟩ := run_changing_ok repository deletes
    ⟨fresh.begun.settled.noPending, fresh.begun.settled.unchanged⟩ accepted
  have kept : changed.record record = workspace.record record := by
    rw [record_of_records records]
    exact (record_begun _ _ _).trans (record_opened workspace record)
  have readable := readable_of_readIdentity reads
  obtain ⟨journal, notes⟩ := run_debugRecord_readable repository "Deleted" (kept ▸ readable)
  have changes : (repository.changing none (repository.deleteIn record)).run workspace =
      (.ok (), changed) := succeeds
  exact ⟨_, (Action.run_bind_ok changes _).trans notes⟩

theorem holds_rowsOf_integer {number : Int} (fits : Cell.fits number = true) (row : Row) :
    (rowsOf (.integer number)).holds row = (row.id == number) := by
  have typed : Attribute.identity.type.boundCell? (.integer number) = some (.integer number) := by
    simp [Attribute.identity, ColumnType.boundCell?, fits]
  rw [rowsOf, Predicate.holds_ofTest, Test.holds_equals_eq, Test.equates_operand typed,
    Bool.eq_iff_iff]
  simp [Row.cell, Cell.same_integer_iff]

end Deleting

section Finding

theorem query_fresh {selection : Selection} {handles : List Handle} (fresh : Fresh id before)
    (ran : (query id selection).run before = (.ok handles, after)) :
    (handles = [] → after = before.begun id) ∧
      ∀ first rest, handles = first :: rest → ∃ row ∈ before.table.rows,
        (after.record first).values = row.values selection.model := by
  obtain ⟨rows, read⟩ := read_of_query fresh.toReady ran
  obtain ⟨others, last, ran', _, _, shown⟩ := run_query fresh.toReady read
  obtain ⟨same, rfl⟩ := Prod.mk.inj (ran.symm.trans ran')
  obtain rfl := Except.ok.inj same
  obtain ⟨_, shown⟩ := shown fresh.unknown
  constructor
  · rintro rfl
    obtain rfl := List.forall₂_nil_right_iff.mp shown
    rw [query, Action.run_bind_ok (run_prepareQuery _ fresh.toReady),
      Action.run_bind_ok (Action.run_get _), table_begun, read] at ran
    exact (Prod.mk.inj ran).2.symm
  · rintro first rest rfl
    obtain ⟨row, others, here, _, rfl⟩ := List.forall₂_cons_right_iff.mp shown
    obtain ⟨_, selected⟩ := Selection.read_ok_iff.mp read
    refine ⟨row, ?_, ?_⟩
    · have listed : row ∈ selection.select before.table.rows := selected ▸ List.mem_cons_self
      exact selection.mem_of_mem_select listed
    · rw [Workspace.record, here]
      rfl

def FindsOrAdds (model : Model) (fields : List (String × Value)) (record : Handle) (isCreated : Bool)
    (before after : Workspace) : Prop :=
  if isCreated then ∃ row,
    InsertsRow model false before.clockCell { values := fields } before.table after.table row ∧
      (after.record record).values = row.values model
  else after.table = before.table ∧ ∃ row ∈ before.table.rows,
    (after.record record).values = row.values model

theorem firstIn_fresh {criteria defaults : List (String × Value)} {isCreated : Bool}
    (fresh : Fresh id before)
    (ran : (repository.firstIn criteria defaults id).run before = (.ok (record, isCreated), after)) :
    FindsOrAdds repository.model (assignAll defaults criteria) record isCreated before after := by
  obtain ⟨predicates, start, compiles, rest⟩ := Action.run_bind_ok_iff.mp ran
  obtain ⟨_, rfl⟩ := Action.run_ofOutcome_ok_iff.mp compiles
  obtain ⟨found, queried, queries, rest⟩ := Action.run_bind_ok_iff.mp rest
  obtain ⟨nothing, first⟩ := query_fresh fresh queries
  split at rest
  · have reading := untouched_query id (firstSelection repository.model predicates) before
    rw [queries] at reading
    obtain ⟨_, _, same⟩ := reading fresh.known fresh.settled
    obtain ⟨result, rfl⟩ := Prod.mk.inj rest
    cases result
    exact ⟨same, first _ _ rfl⟩
  · -- Nothing was read, so that the session still knows no record.
    obtain rfl := nothing rfl
    obtain ⟨made, withNew, makes, rest⟩ := Action.run_bind_ok_iff.mp rest
    obtain ⟨_, inserted, inserting, done⟩ := Action.run_bind_ok_iff.mp rest
    obtain ⟨result, rfl⟩ := Prod.mk.inj done
    cases result
    obtain ⟨rfl, rfl⟩ := makeRecord_ok makes
    have begun := fresh.begun
    have freshNew : Fresh id
        ((before.begun id).withRecord { values := assignAll defaults criteria }) :=
      ⟨⟨begun.known, settled_withRecord _ begun.settled, begun.sound⟩, begun.unknown⟩
    have held : ((before.begun id).withRecord { values := assignAll defaults criteria }).record
        (before.begun id).records.length = { values := assignAll defaults criteria } := by
      rw [record_withRecord, if_pos rfl]
    have effect := insert_fresh freshNew (congrArg Record.key held) inserting
    have table : ((before.begun id).withRecord { values := assignAll defaults criteria }).table =
        before.table := table_begun before id
    have clock : ((before.begun id).withRecord { values := assignAll defaults criteria }).clockCell =
        before.clockCell := clockCell_begun before id
    rw [held, table, clock] at effect
    exact effect

theorem firstOrCreate_inside {criteria defaults : List (String × Value)} {isCreated : Bool}
    (ran : (repository.firstOrCreate criteria defaults none).run workspace =
      (.ok (record, isCreated), after)) :
    ∃ inside, (repository.firstIn criteria defaults (sessionIn none workspace)).run
        (opened none workspace) = (.ok (record, isCreated), inside) ∧
      after.records = inside.records ∧ after.table = inside.table := by
  obtain ⟨⟨made, isMade⟩, changed, changes, notes⟩ := Action.run_bind_ok_iff.mp ran
  have withheld (id : SessionId) : Action.Moves (Withheld repository.model id)
      (repository.firstIn criteria defaults id) :=
    ((tentative_steps repository id).moves_firstIn criteria defaults).mono Tentative.toWithheld
  obtain ⟨inside, found, sameRecords, sameTable⟩ := changing_ok withheld
    (fun id start result inside fresh ran => by
      obtain ⟨other, isOther⟩ := result
      have effect := firstIn_ok fresh.known fresh.settled ran
      cases isOther with
      | false => exact effect.2
      | true => exact ⟨effect.2.settled, effect.2.accepted⟩) changes
  cases isMade with
  | false =>
      obtain ⟨same, rfl⟩ := Prod.mk.inj notes
      cases same
      exact ⟨inside, found, sameRecords, sameTable⟩
  | true =>
      obtain ⟨same, records, table⟩ := noted_ok notes
      cases same
      exact ⟨inside, found, records.trans sameRecords, table.trans sameTable⟩

theorem firstOrCreate_ok {criteria defaults : List (String × Value)} {isCreated : Bool}
    (ran : (repository.firstOrCreate criteria defaults none).run workspace =
      (.ok (record, isCreated), after)) :
    FindsOrAdds repository.model (assignAll defaults criteria) record isCreated workspace after := by
  obtain ⟨inside, found, records, table⟩ := firstOrCreate_inside ran
  have effect := firstIn_fresh (fresh_opened workspace) found
  have clock : (opened none workspace).clockCell = workspace.clockCell := by
    rw [opened_none]
    rfl
  rw [FindsOrAdds, table_opened, clock] at effect
  rw [FindsOrAdds, table, record_of_records records]
  exact effect

theorem table_reading {model : Model} {body : SessionId → Action Workspace α}
    (withheld : ∀ id, Action.Moves (Withheld model id) (body id)) (workspace : Workspace) :
    ((reading none body).run workspace).2.table = workspace.table := by
  have known := (ready_withSession workspace).known
  have closed : ((withSession workspace).session workspace.sessions.length).transaction = .closed := by
    rw [session_withSession]
  have moved := (withheld workspace.sessions.length (withSession workspace)).stored known
  rw [run_reading_own]
  exact moved.trans (storedTable_of_closed closed)

theorem run_find_fresh (model : Model) (fresh : Fresh id workspace) (number : Int) :
    (find model id (.integer number)).run workspace =
      if Cell.fits number then
        match workspace.table.find? number with
        | some row => (.ok (some workspace.records.length), (workspace.begun id).introduce model id row)
        | none => (.ok none, workspace.begun id)
      else (.error (.store .integerTooLarge), workspace.begun id) := by
  have sole : (Action.ofStore (soleIdentity model (.integer number))).run workspace =
      (.ok (.integer number), workspace) := rfl
  have nothing : (flushBeforeQuery model id).run workspace = (.ok (), workspace) :=
    run_flushWith_settled fresh.settled
  rw [find, Action.run_bind_ok sole, Action.run_bind_ok (Action.run_get _), fresh.attached?,
    Action.run_bind_ok nothing]
  cases fits : Cell.fits number with
  | true =>
      have binds : Cell.bind 1 (.integer number) = .ok (.integer number) := by
        simp [Cell.bind, fits]
      rw [run_loadIdentity model fresh binds, Table.locate?_integer]
      rfl
  | false =>
      have refuses : (Action.ofStore (Cell.bind 1 (.integer number))).run (workspace.begun id) =
          (.error (.store .integerTooLarge), workspace.begun id) := by
        simp [Cell.bind, fits, Action.ofStore, Except.mapError]
      rw [loadIdentity, Action.run_bind_ok (run_useTransaction_ready fresh.toReady),
        Action.run_bind_error refuses]
      rfl

/-- How a repository answers a call for the record of an identity: by a record with the values of its
row, or by a report if there is no row; an identity beyond the range of the store is refused. -/
def Answers (repository : Repository) (workspace : Workspace) (number : Int) (after : Workspace) : Prop :=
  if Cell.fits number then
    match workspace.table.find? number with
    | some row => ∃ record, (repository.findById (.integer number) none).run workspace =
        (.ok record, after) ∧ (after.record record).values = row.values repository.model
    | none => (repository.findById (.integer number) none).run workspace =
        (.error (.recordNotFound repository.model.name (.integer number)), after)
  else (repository.findById (.integer number) none).run workspace =
    (.error (.store .integerTooLarge), after)

theorem answers_findById (repository : Repository) (workspace : Workspace) (number : Int) :
    Answers repository workspace number
      ((repository.findById (.integer number) none).run workspace).2 := by
  have fresh : Fresh workspace.sessions.length (withSession workspace) := by
    refine ⟨ready_withSession workspace, ?_⟩
    rw [session_withSession]
  have found := run_find_fresh repository.model fresh number
  have reads := run_reading_own
    (fun session => find repository.model session (.integer number)) workspace
  rw [found] at reads
  have table : (withSession workspace).table = workspace.table := rfl
  rw [table] at reads
  rw [Answers]
  split
  · rename_i fits
    rw [if_pos fits] at reads
    split
    · rename_i row here
      rw [here] at reads
      refine ⟨workspace.records.length, ?_, ?_⟩
      · rw [findById, Action.run_bind_ok reads]
        rfl
      · rw [findById, Action.run_bind_ok reads]
        have ends := record_of_records (records_closeSession workspace.sessions.length
          (((withSession workspace).begun workspace.sessions.length).introduce repository.model
            workspace.sessions.length row)) workspace.records.length
        have read : (((withSession workspace).begun workspace.sessions.length).introduce
            repository.model workspace.sessions.length row).record workspace.records.length =
            Record.ofRow repository.model row := by
          rw [record_introduce, records_begun]
          exact if_pos rfl
        exact congrArg Record.values (ends.trans read)
    · rename_i missing
      rw [missing] at reads
      rw [findById, Action.run_bind_ok reads]
      rfl
  · rename_i beyond
    rw [if_neg beyond] at reads
    rw [findById, Action.run_bind_error reads]

end Finding

section Calls

def Unwritten (before after : Workspace) : Prop := after.table = before.table

instance : IsPreorder Workspace Unwritten where
  refl _ := rfl
  trans _ _ _ left right := right.trans left

theorem unwritten_reading (model : Model) {body : SessionId → Action Workspace α}
    (withheld : ∀ id, Action.Moves (Withheld model id) (body id)) :
    Action.Moves Unwritten (reading none body) :=
  fun workspace => table_reading withheld workspace

theorem unwritten_debug (message : String) : Action.Moves Unwritten (debug message) := fun _ => rfl

theorem unwritten_perform {Reply : Type} (repository : Repository) {call : Call Reply}
    (reads : call.isChange = false) : Action.Moves Unwritten (call.perform repository none) := by
  cases call with
  | create | save | delete | firstOrCreate => cases reads
  | findById identity =>
      refine Action.moves_bind (unwritten_reading repository.model fun id =>
        (tentative_find repository.model id identity).mono Tentative.toWithheld) fun found => ?_
      split
      · exact Action.moves_pure _
      · exact Action.moves_fail _
  | findAll catalogue request limit offset =>
      refine Action.moves_bind (Action.moves_ofOutcome _) fun clauses => ?_
      refine Action.moves_bind (Action.moves_ofOutcome _) fun selection => ?_
      refine Action.moves_bind (unwritten_debug _) fun _ => unwritten_reading selection.model fun id => ?_
      have same : selection.model = selection.model := rfl
      exact (tentative_query same id).mono Tentative.toWithheld
  | findPage catalogue request page rows =>
      have same : (Call.findPage catalogue request page rows).perform repository none = _ :=
        findPage_eq page rows
      rw [same]
      refine Action.moves_bind (Action.moves_ofOutcome _) fun clauses => ?_
      refine Action.moves_bind (unwritten_reading repository.model fun id =>
        ((tentative_steps repository id).moves_pageBody clauses _ page rows).mono
          Tentative.toWithheld) fun read => ?_
      exact Action.moves_bind (unwritten_debug _) fun _ => Action.moves_pure _

theorem table_of_error {Reply : Type} {call : Call Reply} {failure : Failure}
    (ran : (call.perform repository none).run workspace = (.error failure, after)) :
    after.table = workspace.table := by
  cases changes : call.isChange with
  | false =>
      have kept := unwritten_perform repository changes workspace
      rw [ran] at kept
      exact kept
  | true =>
      obtain ⟨same, closes⟩ := mirrors_perform repository call changes workspace rfl
      rw [ran] at same closes
      rw [← same] at closes
      exact closes

end Calls

end Repository
end RecordStore
