import RecordStore.Proofs.JoinedChanges

/-!
What the operations of a repository do to the table when nothing was left unsaved before them: reads
leave it as it is, a deletion takes rows from it, and a new record is one inserted row.
-/

namespace RecordStore
namespace Workspace

variable {model : Model} {id : SessionId}

def Untouched (id : SessionId) (before after : Workspace) : Prop :=
  id < before.sessions.length → Settled id before →
    id < after.sessions.length ∧ Settled id after ∧ after.table = before.table

instance (id : SessionId) : IsPreorder Workspace (Untouched id) where
  refl _ known settled := ⟨known, settled, rfl⟩
  trans _ _ _ left right known settled := by
    obtain ⟨known, settled, table⟩ := left known settled
    obtain ⟨known, settled, same⟩ := right known settled
    exact ⟨known, settled, same.trans table⟩

theorem untouched_changeRecord {handle : Handle} {edit : Record → Record}
    (changes : ∀ record, (edit record).changes = record.changes ∨ (edit record).changes = [])
    (workspace : Workspace) : Untouched id workspace (workspace.changeRecord handle edit) :=
  fun known settled => ⟨known, settled_changeRecord handle changes settled, rfl⟩

theorem settled_begun {workspace : Workspace} (settled : Settled id workspace) :
    Settled id (workspace.begun id) := by
  refine ⟨?_, fun handle held => ?_⟩
  · rw [pending_begun]
    exact settled.noPending
  · rw [attached_begun] at held
    rw [record_begun]
    exact settled.unchanged handle held

theorem untouched_begun (workspace : Workspace) : Untouched id workspace (workspace.begun id) :=
  fun known settled => ⟨by rwa [length_sessions_begun], settled_begun settled, table_begun _ _⟩

theorem untouched_useTransaction (id : SessionId) :
    Action.Moves (Untouched id) (useTransaction id) := by
  intro workspace
  cases ran : (useTransaction id).run workspace with
  | mk outcome after =>
      cases outcome with
      | ok _ =>
          obtain ⟨_, rfl⟩ := run_useTransaction_ok_iff.mp ran
          exact untouched_begun workspace
      | error failure =>
          obtain ⟨_, _, rfl⟩ := run_useTransaction_error ran
          exact refl_of (Untouched id) after

theorem untouched_flushWith (model : Model) (id : SessionId) (duringQuery : Bool) :
    Action.Moves (Untouched id) (flushWith model id none duringQuery) := by
  intro workspace known settled
  rw [run_flushWith_settled settled]
  exact ⟨known, settled, rfl⟩

theorem untouched_prepareQuery (model : Model) (id : SessionId) :
    Action.Moves (Untouched id) (prepareQuery model id) :=
  Action.moves_bind (untouched_flushWith model id true) fun _ => untouched_useTransaction id

theorem untouched_drop (handle : Handle) (workspace : Workspace) :
    Untouched id workspace (workspace.drop id handle) := by
  intro known settled
  have marked : Settled id (workspace.changeRecord handle fun record =>
      { record with deleted := true }) := by
    refine settled_changeRecord handle ?_ settled
    exact fun _ => .inl rfl
  refine ⟨by simpa [drop] using known, ⟨?_, fun other held => ?_⟩, rfl⟩
  · rw [(still_drop id handle workspace).pending]
    exact settled.noPending
  · refine marked.unchanged other ?_
    rw [drop, session_changeSession_self _ (by simpa using known)] at held
    exact (List.mem_filter.mp held).1

theorem untouched_loadRow (model : Model) (id : SessionId) (row : Row) :
    Action.Moves (Untouched id) (loadRow model id row) := by
  intro workspace
  rw [run_loadRow]
  split
  · refine untouched_changeRecord ?_ workspace
    exact fun _ => .inl rfl
  · intro known settled
    refine ⟨?_, settled_introduce known settled, rfl⟩
    simpa [introduce, withRecord] using known

theorem untouched_query (id : SessionId) (selection : Selection) :
    Action.Moves (Untouched id) (query id selection) := by
  refine Action.moves_bind (untouched_prepareQuery _ id) fun _ => Action.moves_get fun _ => ?_
  refine Action.moves_bind (Action.moves_ofStore _) fun rows => ?_
  exact Action.moves_mapM (untouched_loadRow selection.model id) rows

theorem untouched_countRows (id : SessionId) (counting : Counting) :
    Action.Moves (Untouched id) (countRows id counting) :=
  Action.moves_bind (untouched_prepareQuery _ id) fun _ =>
    Action.moves_get fun _ => Action.moves_ofStore _

theorem untouched_loadIdentity (model : Model) (id : SessionId) (key : Value) :
    Action.Moves (Untouched id) (loadIdentity model id key) := by
  refine Action.moves_bind (untouched_useTransaction id) fun _ => ?_
  refine Action.moves_bind (Action.moves_ofStore _) fun cell => Action.moves_get fun workspace => ?_
  split
  · exact Action.moves_bind (untouched_loadRow model id _) fun _ => Action.moves_pure _
  · exact Action.moves_pure none

theorem untouched_revive (model : Model) (id : SessionId) (handle : Handle) :
    Action.Moves (Untouched id) (revive model id handle) := by
  refine Action.moves_bind (untouched_useTransaction id) fun _ => Action.moves_get fun workspace => ?_
  refine Action.moves_bind (Action.moves_ofStore _) fun cell => ?_
  split
  · refine Action.moves_bind (Action.moves_modify fun middle => ?_) fun _ => Action.moves_pure _
    refine untouched_changeRecord ?_ middle
    exact fun _ => .inl rfl
  · refine Action.moves_bind (Action.moves_modify fun middle => ?_) fun _ => Action.moves_pure _
    exact untouched_drop handle middle

theorem untouched_find (model : Model) (id : SessionId) (identity : Value) :
    Action.Moves (Untouched id) (find model id identity) := by
  refine Action.moves_bind (Action.moves_ofStore _) fun key => Action.moves_get fun workspace => ?_
  split
  · split
    · exact Action.moves_bind (untouched_flushWith model id true) fun _ =>
        untouched_revive model id _
    · exact Action.moves_pure _
  · exact Action.moves_bind (untouched_flushWith model id true) fun _ =>
      untouched_loadIdentity model id key

def HoldsRow (model : Model) (record : Handle) (workspace : Workspace) : Prop :=
  ∃ row ∈ workspace.table.rows, (workspace.record record).values = row.values model

theorem locate?_null (table : Table) : table.locate? .null = none := by
  refine List.find?_eq_none.mpr fun row _ => ?_
  simp [Cell.same, Cell.number?, Cell.rank]

theorem refresh_reads {record : Handle} {before after : Workspace} (settled : Settled id before)
    (ran : (refresh model id record).run before = (.ok (), after)) :
    ∃ cell row, Cell.bind 1 ((before.record record).key.getD .null) = .ok cell ∧
      before.table.locate? cell = some row ∧
      after = (before.begun id).changeRecord record (Record.load (row.values model)) := by
  obtain ⟨_, begun, prepares, ran⟩ := Action.run_bind_ok_iff.mp ran
  rw [prepareQuery, flushBeforeQuery, Action.run_bind_ok (run_flushWith_settled settled)] at prepares
  obtain ⟨_, rfl⟩ := run_useTransaction_ok_iff.mp prepares
  rw [Action.run_bind_ok (Action.run_get _)] at ran
  obtain ⟨cell, middle, binds, ran⟩ := Action.run_bind_ok_iff.mp ran
  obtain ⟨bound, rfl⟩ := Action.run_ofStore_ok_iff.mp binds
  rw [record_begun] at bound
  split at ran
  · rename_i row located
    obtain ⟨_, rfl⟩ := Prod.mk.inj ran
    rw [table_begun] at located
    exact ⟨cell, row, bound, located, rfl⟩
  · cases ran

theorem refresh_ok {record : Handle} {before after : Workspace} (settled : Settled id before)
    (ran : (refresh model id record).run before = (.ok (), after)) :
    after.table = before.table ∧ Settled id after ∧ HoldsRow model record after ∧
      (before.record record).key ≠ none := by
  obtain ⟨cell, row, bound, located, rfl⟩ := refresh_reads settled ran
  have keyed : (before.record record).key ≠ none := by
    intro keyless
    rw [keyless] at bound
    obtain rfl : Cell.null = cell := Except.ok.inj bound
    rw [locate?_null] at located
    cases located
  have known : record < before.records.length := by
    refine Nat.not_le.mp fun unknown => keyed ?_
    rw [record_of_le unknown]
    rfl
  refine ⟨table_begun _ _, ?_, ⟨row, ?_, ?_⟩, keyed⟩
  · exact settled_changeRecord record (fun _ => .inr rfl) (settled_begun settled)
  · exact (table_begun before id).symm ▸ List.mem_of_find?_eq_some located
  · rw [record_changeRecord, if_pos ⟨rfl, by simpa using known⟩]
    rfl

def awaiting (id : SessionId) (record : Handle) (workspace : Workspace) : Workspace :=
  workspace.changeSession id fun session =>
    { session with pending := session.pending ++ [record] }

theorem add_keyless {record : Handle} {before after : Workspace}
    (keyless : (before.record record).key = none)
    (ran : (add model id record).run before = (.ok (), after)) :
    after = before ∨ after = before.awaiting id record := by
  simp only [add, Action.run_bind, Action.run_get, keyless] at ran
  split at ran
  · split at ran
    · exact .inl (Prod.mk.inj ran).2.symm
    · cases ran
  · exact .inr (Prod.mk.inj ran).2.symm
  · rename_i key _ keyed
    cases keyed

theorem not_rejected_of_prepareQuery {before after : Workspace}
    (ran : (prepareQuery model id).run before = (.ok (), after)) : ¬before.Rejected id := by
  intro rejected
  obtain ⟨_, flushed, flushes, uses⟩ := Action.run_bind_ok_iff.mp ran
  have still := (withheld_flushWith model id none true before).rejected rejected
  rw [flushBeforeQuery] at flushes
  rw [flushes] at still
  obtain ⟨cause, duringQuery, failed⟩ := still
  exact (run_useTransaction_ok_iff.mp uses).1 cause duringQuery failed

theorem not_rejected_of_useTransaction {before after : Workspace} (known : id < before.sessions.length)
    (ran : (useTransaction id).run before = (.ok (), after)) : ¬after.Rejected id := by
  rintro ⟨cause, duringQuery, failed⟩
  obtain ⟨table, active⟩ := active_of_useTransaction known ran
  rw [active] at failed
  cases failed

theorem accepted_prepareQuery {before after : Workspace} (known : id < before.sessions.length)
    (ran : (prepareQuery model id).run before = (.ok (), after)) : ¬after.Rejected id := by
  obtain ⟨_, flushed, flushes, uses⟩ := Action.run_bind_ok_iff.mp ran
  have moved := withheld_flushWith model id none true before
  rw [flushBeforeQuery] at flushes
  rw [flushes] at moved
  exact not_rejected_of_useTransaction (Nat.lt_of_lt_of_le known moved.sessions) uses

theorem accepted_refresh {record : Handle} {before after : Workspace}
    (known : id < before.sessions.length)
    (ran : (refresh model id record).run before = (.ok (), after)) : ¬after.Rejected id := by
  obtain ⟨_, prepared, prepares, rest⟩ := Action.run_bind_ok_iff.mp ran
  have accepted := accepted_prepareQuery known prepares
  rw [Action.run_bind_ok (Action.run_get _)] at rest
  obtain ⟨cell, middle, binds, rest⟩ := Action.run_bind_ok_iff.mp rest
  obtain ⟨_, rfl⟩ := Action.run_ofOutcome_ok_iff.mp binds
  split at rest
  · obtain ⟨_, rfl⟩ := Prod.mk.inj rest
    exact accepted
  · cases rest

theorem accepted_query {selection : Selection} {records : List Handle} {before after : Workspace}
    (known : id < before.sessions.length)
    (ran : (query id selection).run before = (.ok records, after)) : ¬after.Rejected id := by
  obtain ⟨_, prepared, prepares, rest⟩ := Action.run_bind_ok_iff.mp ran
  have accepted := accepted_prepareQuery known prepares
  rw [Action.run_bind_ok (Action.run_get _)] at rest
  obtain ⟨rows, middle, reads, loads⟩ := Action.run_bind_ok_iff.mp rest
  obtain ⟨_, rfl⟩ := Action.run_ofOutcome_ok_iff.mp reads
  have still : Still id prepared _ :=
    Action.moves_mapM (still_loadRow selection.model id) rows prepared
  rw [loads] at still
  exact fun rejected => accepted (still.rejected_iff.mp rejected)

structure Stored (model : Model) (id : SessionId) (record : Handle) (workspace : Workspace) : Prop where
  settled : Settled id workspace
  accepted : ¬workspace.Rejected id
  holds : HoldsRow model record workspace

theorem settled_of_refresh {stamped : Option Handle} {duringQuery : Bool} {record : Handle}
    {before flushed after : Workspace} (known : id < before.sessions.length)
    (keyless : before.Keyless id)
    (flushes : (flushWith model id stamped duringQuery).run before = (.ok (), flushed))
    (refreshes : (refresh model id record).run flushed = (.ok (), after)) : Settled id flushed := by
  rcases keyless with rejected | keyless
  · have still := (withheld_flushWith model id stamped duringQuery before).rejected rejected
    rw [flushes] at still
    obtain ⟨_, _, prepares, _⟩ := Action.run_bind_ok_iff.mp refreshes
    exact absurd still (not_rejected_of_prepareQuery prepares)
  · exact settled_of_settledBut (settledBut_of_flushWith known keyless flushes)

theorem stored_of_refresh {stamped : Option Handle} {duringQuery : Bool} {record : Handle}
    {before flushed after : Workspace} (known : id < before.sessions.length)
    (keyless : before.Keyless id)
    (flushes : (flushWith model id stamped duringQuery).run before = (.ok (), flushed))
    (refreshes : (refresh model id record).run flushed = (.ok (), after)) :
    Stored model id record after := by
  have moved := withheld_flushWith model id stamped duringQuery before
  rw [flushes] at moved
  have settled := settled_of_refresh known keyless flushes refreshes
  obtain ⟨_, settled, holds, _⟩ := refresh_ok settled refreshes
  exact ⟨settled, accepted_refresh (Nat.lt_of_lt_of_le known moved.sessions) refreshes, holds⟩

theorem settled_withRecord (values : List (String × Value)) {workspace : Workspace}
    (settled : Settled id workspace) : Settled id (workspace.withRecord { values }) := by
  refine ⟨settled.noPending, fun other held => ?_⟩
  rw [record_withRecord]
  split
  · rfl
  · exact settled.unchanged other held

theorem settled_changeRecord_apart {record : Handle} (edit : Record → Record) {workspace : Workspace}
    (apart : record ∉ (workspace.session id).attached) (settled : Settled id workspace) :
    Settled id (workspace.changeRecord record edit) := by
  refine ⟨settled.noPending, fun other held => ?_⟩
  have different : other ≠ record := fun same => apart (same ▸ held)
  rw [record_changeRecord, if_neg fun same => different same.1]
  exact settled.unchanged other held

end Workspace

namespace Repository

open Workspace

variable {repository : Repository} {unit : UnitOfWork SessionId} {id : SessionId}

theorem untouched_debug (message : String) : Action.Moves (Untouched id) (debug message) :=
  fun _ known settled => ⟨known, ⟨settled.noPending, settled.unchanged⟩, rfl⟩

theorem insert_stored {record : Handle} {before after : Workspace}
    (known : id < before.sessions.length) (quiet : before.Quiet id)
    (ran : (repository.insert id record).run before = (.ok (), after)) :
    Stored repository.model id record after := by
  obtain ⟨_, added, adds, ran⟩ := Action.run_bind_ok_iff.mp ran
  obtain ⟨_, flushed, flushes, refreshes⟩ := Action.run_bind_ok_iff.mp ran
  have leaves := leaves_add repository.model record known quiet
  have moved : Steady id before _ := steady_add repository.model id record before
  rw [adds] at leaves moved
  exact stored_of_refresh (Nat.lt_of_lt_of_le known moved.sessions) leaves flushes refreshes

theorem saveIn_stored {record saved : Handle} {before after : Workspace}
    (known : id < before.sessions.length) (quiet : before.Quiet id)
    (ran : (repository.saveIn record id).run before = (.ok saved, after)) :
    Stored repository.model id saved after := by
  obtain ⟨merged, middle, merges, ran⟩ := Action.run_bind_ok_iff.mp ran
  obtain ⟨_, flushed, flushes, ran⟩ := Action.run_bind_ok_iff.mp ran
  obtain ⟨_, refreshed, refreshes, last⟩ := Action.run_bind_ok_iff.mp ran
  obtain ⟨rfl, rfl⟩ := Action.run_pure_ok_iff.mp last
  have leaves := leaves_merge repository.model record known quiet
  have moved : Withheld repository.model id before _ := withheld_merge repository.model record before
  rw [merges] at leaves moved
  exact stored_of_refresh (Nat.lt_of_lt_of_le known moved.sessions) leaves flushes refreshes

theorem setAttribute_ok {model : Model} {record : Handle} {name : String} {value : Value}
    {before after : Workspace}
    (ran : (setAttribute model record name value).run before = (.ok (), after)) :
    after = before ∨ after = before.changeRecord record (Record.set name value) := by
  have sets {start last : Workspace} (ran : (if (model.attribute? name).isSome then
      Action.modify (changeRecord record (Record.set name value)) else pure ()).run start =
        (.ok (), last)) : last = start ∨ last = start.changeRecord record (Record.set name value) := by
    split at ran
    · exact .inr (Prod.mk.inj ran).2.symm
    · exact .inl (Prod.mk.inj ran).2.symm
  simp only [setAttribute] at ran
  split at ran
  · obtain ⟨_, start, reads, rest⟩ := Action.run_bind_ok_iff.mp ran
    obtain rfl := readIdentity_ok reads
    exact sets rest
  · exact sets ran

theorem makeRecord_ok {model : Model} {fields : List (String × Value)} {made : Handle}
    {before after : Workspace} (ran : (makeRecord model fields).run before = (.ok made, after)) :
    made = before.records.length ∧ after = before.withRecord { values := fields } := by
  obtain ⟨_, start, checks, adds⟩ := Action.run_bind_ok_iff.mp ran
  obtain ⟨_, rfl⟩ := Action.run_ofOutcome_ok_iff.mp checks
  obtain ⟨same, rfl⟩ := Action.run_pure_ok_iff.mp adds
  exact ⟨same.symm, rfl⟩

def Inserts (model : Model) (before after : Table) : Prop :=
  ∃ given cells row, before.insert model given cells = .ok (row, after)

theorem insert_inserts {record : Handle} {before after : Workspace}
    (known : id < before.sessions.length) (settled : Settled id before)
    (keyless : (before.record record).key = none)
    (ran : (repository.insert id record).run before = (.ok (), after)) :
    Inserts repository.model before.table after.table := by
  obtain ⟨_, added, adds, ran⟩ := Action.run_bind_ok_iff.mp ran
  obtain ⟨_, flushed, flushes, refreshes⟩ := Action.run_bind_ok_iff.mp ran
  -- A record that waits already, in a session with nothing to write, has no row to be refreshed from.
  rcases add_keyless keyless adds with rfl | rfl
  · rw [flush, run_flushWith_settled settled] at flushes
    obtain ⟨_, rfl⟩ := Prod.mk.inj flushes
    exact absurd keyless (refresh_ok settled refreshes).2.2.2
  · have session : (before.awaiting id record).session id =
        { before.session id with pending := (before.session id).pending ++ [record] } :=
      session_changeSession_self _ known
    have pending : ((before.awaiting id record).session id).pending = [record] := by
      rw [session, settled.noPending]
      rfl
    have unchanged : ∀ other ∈ ((before.awaiting id record).session id).attached,
        ((before.awaiting id record).record other).changes = [] := by
      rw [session]
      exact settled.unchanged
    have leaves := leaves_add repository.model record known (.inr settled.noPending)
    rw [adds] at leaves
    obtain ⟨written, inserted, rfl⟩ :=
      insertRecord_of_flushWith (changedRecords_eq_nil unchanged) pending flushes
    have knownAdded : id < (before.awaiting id record).sessions.length := by
      simpa [awaiting] using known
    have settledAfter := settled_of_refresh knownAdded leaves flushes refreshes
    have settles : Steady id written (written.settleRecord id record) :=
      steady_settleRecord id record written
    obtain ⟨given, cells, row, accepted⟩ := accepts_insertRecord inserted
    rw [table_begun] at accepted
    rw [(refresh_ok settledAfter refreshes).1, settles.table]
    exact ⟨given, cells, row, accepted⟩

theorem debugRecord_ok {verb : String} {record : Handle} {before after : Workspace}
    (ran : (repository.debugRecord verb record).run before = (.ok (), after)) :
    ∃ journal, after = { before with journal } := by
  obtain ⟨identity, start, reads, notes⟩ := Action.run_bind_ok_iff.mp ran
  obtain rfl := readIdentity_ok reads
  exact ⟨_, (Prod.mk.inj notes).2.symm⟩

theorem deleteIn_ok {record : Handle} {before after : Workspace}
    (known : id < before.sessions.length) (settled : Settled id before)
    (ran : (repository.deleteIn record id).run before = (.ok (), after)) : ∃ identity,
      (readIdentity repository.model record).run before = (.ok identity, before) ∧
      Token.checkBindings ((rowsOf identity).tokens (.adapter .sqlite) repository.model) = .ok () ∧
      (before.begun id).erase id identity = after ∧ ¬after.Rejected id := by
  obtain ⟨identity, start, reads, rest⟩ := Action.run_bind_ok_iff.mp ran
  obtain rfl := readIdentity_ok reads
  rw [deleteIdentity_eq] at rest
  obtain ⟨_, begun, prepares, rest⟩ := Action.run_bind_ok_iff.mp rest
  obtain ⟨_, checked, checks, erases⟩ := Action.run_bind_ok_iff.mp rest
  obtain ⟨bindable, rfl⟩ := Action.run_ofStore_ok_iff.mp checks
  obtain rfl : begun.erase id identity = after := (Prod.mk.inj erases).2
  have accepted := accepted_prepareQuery known prepares
  rw [prepareQuery, flushBeforeQuery, Action.run_bind_ok (run_flushWith_settled settled)] at prepares
  obtain ⟨_, rfl⟩ := run_useTransaction_ok_iff.mp prepares
  refine ⟨identity, reads, bindable, rfl, fun rejected => accepted ?_⟩
  exact (still_erase id identity (before.begun id)).rejected_iff.mp rejected

theorem firstIn_ok {criteria defaults : List (String × Value)} {record : Handle} {isCreated : Bool}
    {before after : Workspace} (known : id < before.sessions.length) (settled : Settled id before)
    (ran : (repository.firstIn criteria defaults id).run before = (.ok (record, isCreated), after)) :
    if isCreated then Inserts repository.model before.table after.table ∧
      Stored repository.model id record after
    else after.table = before.table ∧ Settled id after ∧ ¬after.Rejected id := by
  obtain ⟨predicates, start, compiles, rest⟩ := Action.run_bind_ok_iff.mp ran
  obtain ⟨_, rfl⟩ := Action.run_ofOutcome_ok_iff.mp compiles
  obtain ⟨found, queried, queries, rest⟩ := Action.run_bind_ok_iff.mp rest
  have reading := untouched_query id (firstSelection repository.model predicates) before
  rw [queries] at reading
  obtain ⟨knownRead, settledRead, same⟩ := reading known settled
  split at rest
  · obtain ⟨result, rfl⟩ := Prod.mk.inj rest
    cases result
    exact ⟨same, settledRead, accepted_query known queries⟩
  · obtain ⟨made, withNew, makes, rest⟩ := Action.run_bind_ok_iff.mp rest
    obtain ⟨_, inserted, inserting, done⟩ := Action.run_bind_ok_iff.mp rest
    obtain ⟨result, rfl⟩ := Prod.mk.inj done
    cases result
    obtain ⟨rfl, rfl⟩ := makeRecord_ok makes
    have settledNew : Settled id (queried.withRecord { values := assignAll defaults criteria }) :=
      settled_withRecord _ settledRead
    have knownNew : id <
        (queried.withRecord { values := assignAll defaults criteria }).sessions.length := knownRead
    have keyless : ((queried.withRecord { values := assignAll defaults criteria }).record
        queried.records.length).key = none := by
      rw [record_withRecord, if_pos rfl]
    have inserts := insert_inserts knownNew settledNew keyless inserting
    rw [← same]
    exact ⟨inserts, insert_stored knownNew (.inr settledNew.noPending) inserting⟩

theorem untouched_reads (repository : Repository) (id : SessionId) :
    ReadsMove repository id (Untouched id) where
  notes := untouched_debug
  finds identity := untouched_find repository.model id identity
  queries selection _ := untouched_query id selection
  counts counting _ := untouched_countRows id counting

section Joined

variable (held : unit.session = some id)

include held

theorem create_inserts {record created : Handle} {before after : Workspace}
    (known : id < before.sessions.length) (settled : Settled id before)
    (keyless : (before.record record).key = none)
    (apart : record ∉ (before.session id).attached)
    (ran : (repository.create record (some unit)).run before = (.ok created, after)) :
    Inserts repository.model before.table after.table ∧ HoldsRow repository.model record after := by
  have inserts {start : Workspace} (known : id < start.sessions.length) (settled : Settled id start)
      (keyless : (start.record record).key = none) {last : Workspace}
      (ran : (do
        repository.changing (some unit) fun session => repository.insert session record
        repository.debugRecord "Created" record
        pure record : Action Workspace Handle).run start = (.ok created, last)) :
      Inserts repository.model start.table last.table ∧ HoldsRow repository.model record last := by
    rw [changing_joined held] at ran
    obtain ⟨_, inserted, inserting, logs⟩ := Action.run_bind_ok_iff.mp ran
    obtain ⟨_, logged, logging, done⟩ := Action.run_bind_ok_iff.mp logs
    obtain rfl : logged = last := (Prod.mk.inj done).2
    obtain ⟨journal, rfl⟩ := debugRecord_ok logging
    have stored := insert_inserts known settled keyless inserting
    exact ⟨stored, (insert_stored known (.inr settled.noPending) inserting).holds⟩
  obtain ⟨identity, start, reads, rest⟩ := Action.run_bind_ok_iff.mp ran
  obtain rfl := readIdentity_ok reads
  split at rest
  · obtain ⟨_, _, _, failed⟩ := Action.run_bind_ok_iff.mp rest
    cases failed
  · split at rest
    · obtain ⟨_, cleared, clears, adds⟩ := Action.run_bind_ok_iff.mp rest
      -- Clearing the identity marks a change on a record that the session does not know.
      rcases setAttribute_ok clears with rfl | rfl
      · exact inserts known settled keyless adds
      · have untouched :=
          settled_changeRecord_apart (Record.set Attribute.identity.name .null) apart settled
        refine inserts (by simpa using known) untouched ?_ adds
        rw [record_changeRecord]
        split
        · exact keyless
        · exact keyless
    · exact inserts known settled keyless rest

theorem delete_removes {record : Handle} {before after : Workspace}
    (known : id < before.sessions.length) (settled : Settled id before)
    (ran : (repository.delete record (some unit)).run before = (.ok (), after)) :
    ∃ identity, (readIdentity repository.model record).run before = (.ok identity, before) ∧
      after.table = before.table.removeWhere fun row => (rowsOf identity).holds row := by
  simp only [delete] at ran
  rw [changing_joined held] at ran
  obtain ⟨_, deleted, deletes, logs⟩ := Action.run_bind_ok_iff.mp ran
  obtain ⟨identity, reads, _, rfl, _⟩ := deleteIn_ok known settled deletes
  obtain ⟨journal, rfl⟩ := debugRecord_ok logs
  refine ⟨identity, reads, ?_⟩
  rw [← table_begun before id]
  exact (still_erase id identity (before.begun id)).table

theorem firstOrCreate_inserts {criteria defaults : List (String × Value)} {record : Handle}
    {isCreated : Bool} {before after : Workspace} (known : id < before.sessions.length)
    (settled : Settled id before)
    (ran : (repository.firstOrCreate criteria defaults (some unit)).run before =
      (.ok (record, isCreated), after)) :
    if isCreated then Inserts repository.model before.table after.table ∧
      HoldsRow repository.model record after
    else after.table = before.table := by
  simp only [firstOrCreate] at ran
  rw [changing_joined held] at ran
  obtain ⟨⟨made, isMade⟩, stored, stores, logs⟩ := Action.run_bind_ok_iff.mp ran
  have effect := firstIn_ok known settled stores
  cases isMade with
  | false =>
      obtain ⟨same, rfl⟩ := Prod.mk.inj logs
      cases same
      exact effect.1
  | true =>
      obtain ⟨_, logged, logging, last⟩ := Action.run_bind_ok_iff.mp logs
      obtain ⟨same, rfl⟩ := Prod.mk.inj last
      cases same
      obtain ⟨journal, rfl⟩ := debugRecord_ok logging
      exact ⟨effect.1, effect.2.holds⟩

end Joined

end Repository
end RecordStore
