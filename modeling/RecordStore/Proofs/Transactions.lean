import RecordStore.Proofs.Statements

/-!
What a session does in its transaction. Until the transaction is kept, nothing of it reaches the table
that the store keeps, and once the store has rejected a write of it, it cannot be used any more.
-/

namespace RecordStore
namespace Workspace

/-- Whether the store has rejected a write of a session's transaction, which is not ended yet. -/
def Rejected (id : SessionId) (workspace : Workspace) : Prop :=
  ∃ cause duringQuery, (workspace.session id).transaction = .failed cause duringQuery

instance (id : SessionId) (workspace : Workspace) : Decidable (workspace.Rejected id) :=
  match state : (workspace.session id).transaction with
  | .failed cause duringQuery => isTrue ⟨cause, duringQuery, state⟩
  | .closed => isFalse fun ⟨_, _, failed⟩ => Transaction.noConfusion (state.symm.trans failed)
  | .active _ => isFalse fun ⟨_, _, failed⟩ => Transaction.noConfusion (state.symm.trans failed)

/-- The table that the store keeps, without what the transaction of a session has done so far. -/
def storedTable (id : SessionId) (workspace : Workspace) : Table :=
  (workspace.restoreTable id).table

/-- Whether a session led from one workspace to another by statements that the store accepted, without
reaching the table that the store keeps, nor getting over a rejected write. -/
structure Withheld (model : Model) (id : SessionId) (before after : Workspace) : Prop where
  sessions : before.sessions.length ≤ after.sessions.length
  stored : id < before.sessions.length → after.storedTable id = before.storedTable id
  rejected : before.Rejected id → after.Rejected id
  accepted : after.Rejected id ∨ Table.AcceptsAll model before.table after.table

variable {model : Model}

theorem Withheld.refl (id : SessionId) (workspace : Workspace) :
    Withheld model id workspace workspace :=
  ⟨Nat.le_refl _, fun _ => rfl, fun rejected => rejected, .inr .refl⟩

theorem Withheld.trans {id : SessionId} {first second third : Workspace}
    (left : Withheld model id first second) (right : Withheld model id second third) :
    Withheld model id first third where
  sessions := Nat.le_trans left.sessions right.sessions
  stored known := (right.stored (Nat.lt_of_lt_of_le known left.sessions)).trans (left.stored known)
  rejected rejected := right.rejected (left.rejected rejected)
  accepted := by
    rcases left.accepted with rejected | started
    · exact .inl (right.rejected rejected)
    · exact right.accepted.imp_right started.trans

instance (id : SessionId) : IsPreorder Workspace (Withheld model id) where
  refl := Withheld.refl id
  trans _ _ _ := Withheld.trans

section Withheld

variable {id : SessionId} {before after : Workspace}

theorem storedTable_of_active {table : Table}
    (active : (before.session id).transaction = .active table) : before.storedTable id = table := by
  simp only [storedTable, restoreTable, active]

theorem storedTable_of_closed (closed : (before.session id).transaction = .closed) :
    before.storedTable id = before.table := by
  simp only [storedTable, restoreTable, closed]

theorem storedTable_of_rejected (rejected : before.Rejected id) :
    before.storedTable id = before.table := by
  obtain ⟨cause, duringQuery, failed⟩ := rejected
  simp only [storedTable, restoreTable, failed]

theorem Steady.storedTable (steady : Steady id before after) :
    after.storedTable id = before.storedTable id := by
  simp only [Workspace.storedTable, restoreTable, steady.transaction]
  split
  · rfl
  · exact steady.table

theorem Steady.rejected_iff (steady : Steady id before after) :
    after.Rejected id ↔ before.Rejected id := by
  rw [Rejected, steady.transaction, Rejected]

theorem Steady.withheld (steady : Steady id before after) : Withheld model id before after where
  sessions := steady.sessions
  stored _ := steady.storedTable
  rejected := steady.rejected_iff.mpr
  accepted := .inr (steady.table ▸ .refl)

theorem withheld_of_active {table : Table}
    (sessions : before.sessions.length ≤ after.sessions.length)
    (active : (before.session id).transaction = .active table)
    (transaction : (after.session id).transaction = (before.session id).transaction)
    (accepted : Table.AcceptsAll model before.table after.table) :
    Withheld model id before after where
  sessions := sessions
  accepted := .inr accepted
  stored _ := by
    rw [storedTable_of_active active, storedTable_of_active (transaction.trans active)]
  rejected := by
    rintro ⟨cause, duringQuery, failed⟩
    rw [active] at failed
    cases failed

theorem withheld_of_unknown (unknown : before.sessions.length ≤ id)
    (sessions : before.sessions.length ≤ after.sessions.length)
    (accepted : Table.AcceptsAll model before.table after.table) :
    Withheld model id before after where
  sessions := sessions
  accepted := .inr accepted
  stored known := absurd known (Nat.not_lt.mpr unknown)
  rejected := by
    rintro ⟨cause, duringQuery, failed⟩
    rw [session_of_le unknown] at failed
    cases failed

theorem storedTable_begun (known : id < before.sessions.length) :
    (before.begun id).storedTable id = before.storedTable id := by
  rcases transaction_begun known with ⟨same, _⟩ | ⟨closed, began⟩
  · exact Steady.storedTable ⟨Nat.le_of_eq (length_sessions_begun _ _).symm, table_begun _ _, same⟩
  · rw [storedTable_of_active began, storedTable_of_closed closed]

theorem rejected_begun (rejected : before.Rejected id) : (before.begun id).Rejected id := by
  obtain ⟨cause, duringQuery, failed⟩ := rejected
  refine ⟨cause, duringQuery, ?_⟩
  have same : before.begun id = before := by
    simp only [begun, failed, Transaction.isClosed, Bool.false_eq_true, if_false]
  rw [same, failed]

theorem withheld_begun (id : SessionId) (workspace : Workspace) :
    Withheld model id workspace (workspace.begun id) where
  sessions := Nat.le_of_eq (length_sessions_begun _ _).symm
  stored := storedTable_begun
  rejected := rejected_begun
  accepted := by
    rw [table_begun]
    exact .inr .refl

theorem run_useTransaction_error {failure : Failure}
    (ran : (useTransaction id).run before = (.error failure, after)) :
    before.Rejected id ∧ failure.isOrdinary = true ∧ after = before := by
  simp only [useTransaction, Action.run_bind, Action.run_get] at ran
  split at ran
  · cases ran
  · cases ran
  · rename_i cause duringQuery failed
    obtain ⟨same, rfl⟩ := Prod.mk.inj ran
    obtain rfl := Except.error.inj same
    exact ⟨⟨cause, duringQuery, failed⟩, rfl, rfl⟩

theorem active_of_useTransaction (known : id < before.sessions.length)
    (ran : (useTransaction id).run before = (.ok (), after)) :
    ∃ table, (after.session id).transaction = .active table := by
  obtain ⟨sound, rfl⟩ := run_useTransaction_ok_iff.mp ran
  rcases transaction_begun known with ⟨same, opened⟩ | ⟨_, began⟩
  · rw [same]
    cases state : (before.session id).transaction with
    | closed => simp [state, Transaction.isClosed] at opened
    | active table => exact ⟨table, rfl⟩
    | failed cause duringQuery => exact absurd state (sound cause duringQuery)
  · exact ⟨before.table, began⟩

theorem withheld_in_transaction {start : Workspace}
    (ran : (useTransaction id).run start = (.ok (), before))
    (sessions : before.sessions.length ≤ after.sessions.length)
    (transaction : (after.session id).transaction = (before.session id).transaction)
    (accepted : Table.AcceptsAll model before.table after.table) :
    Withheld model id before after := by
  by_cases known : id < start.sessions.length
  · obtain ⟨table, active⟩ := active_of_useTransaction known ran
    exact withheld_of_active sessions active transaction accepted
  · obtain ⟨_, rfl⟩ := run_useTransaction_ok_iff.mp ran
    refine withheld_of_unknown ?_ sessions accepted
    rw [length_sessions_begun]
    exact Nat.not_lt.mp known

theorem steady_restoreTransaction (id : SessionId) (workspace : Workspace) :
    Steady id (workspace.restoreTable id) ((workspace.restoreTable id).restoreRecords id) :=
  steady_restoreRecords id _

theorem length_sessions_restoreTable (id : SessionId) (workspace : Workspace) :
    (workspace.restoreTable id).sessions.length = workspace.sessions.length := by
  simp only [restoreTable]
  split <;> rfl

theorem table_failTransaction (id : SessionId) (cause : StoreFailure) (duringQuery : Bool)
    (workspace : Workspace) :
    (workspace.failTransaction id cause duringQuery).table = workspace.storedTable id :=
  (steady_restoreTransaction id workspace).table

theorem length_sessions_failTransaction (id : SessionId) (cause : StoreFailure) (duringQuery : Bool)
    (workspace : Workspace) :
    workspace.sessions.length ≤ (workspace.failTransaction id cause duringQuery).sessions.length := by
  simp only [failTransaction, setTransaction, length_sessions_changeSession]
  rw [← length_sessions_restoreTable id workspace]
  exact (steady_restoreTransaction id workspace).sessions

theorem rejected_failTransaction (known : id < before.sessions.length) (cause : StoreFailure)
    (duringQuery : Bool) : (before.failTransaction id cause duringQuery).Rejected id := by
  have bound := length_sessions_failTransaction id cause duringQuery before
  simp only [failTransaction, setTransaction, length_sessions_changeSession] at bound ⊢
  refine ⟨cause, duringQuery, ?_⟩
  rw [session_changeSession_self _ (Nat.lt_of_lt_of_le known bound)]

theorem withheld_failTransaction (id : SessionId) (cause : StoreFailure) (duringQuery : Bool)
    (workspace : Workspace) :
    Withheld model id workspace (workspace.failTransaction id cause duringQuery) := by
  have sessions := length_sessions_failTransaction id cause duringQuery workspace
  by_cases known : id < workspace.sessions.length
  · have rejected := rejected_failTransaction known cause duringQuery
    refine ⟨sessions, fun _ => ?_, fun _ => rejected, .inl rejected⟩
    rw [storedTable_of_rejected rejected, table_failTransaction]
  · refine withheld_of_unknown (Nat.not_lt.mp known) sessions ?_
    have closed : (workspace.session id).transaction = .closed := by
      rw [session_of_le (Nat.not_lt.mp known)]
    rw [table_failTransaction, storedTable_of_closed closed]

theorem withheld_useTransaction (id : SessionId) :
    Action.Moves (Withheld model id) (useTransaction id) := by
  intro workspace
  cases ran : (useTransaction id).run workspace with
  | mk outcome after =>
      cases outcome with
      | ok _ =>
          obtain ⟨_, rfl⟩ := run_useTransaction_ok_iff.mp ran
          exact withheld_begun id workspace
      | error failure =>
          obtain ⟨_, _, rfl⟩ := run_useTransaction_error ran
          exact .refl id after

theorem withheld_flushWith (model : Model) (id : SessionId) (stamped : Option Handle)
    (duringQuery : Bool) :
    Action.Moves (Withheld model id) (flushWith model id stamped duringQuery) := by
  intro workspace
  simp only [flushWith]
  rw [Action.run_bind_ok (Action.run_get workspace)]
  split
  · exact .refl id workspace
  · refine Action.moves_bind_of (withheld_useTransaction id) (fun start _ begun ran => ?_) workspace
    rw [Action.run_bind_ok (Action.run_get begun)]
    split
    -- Accepted writes change the table of the open transaction; a rejected one gives the kept table back.
    · rename_i written wrote
      have writes := writes_writeRecords wrote
      have settle (middle : Workspace) (handle : Handle) :
          Steady id middle (middle.settleRecord id handle) := steady_settleRecord id handle middle
      have settles := related_foldl settle
        (workspace.changedRecords id stamped ++ (workspace.session id).pending) written
      refine withheld_in_transaction ran ?_ (settles.transaction.trans ?_) ?_
      · rw [← writes.sessions]
        exact settles.sessions
      · simp only [session, writes.sessions]
      · have accepted := accepts_writeRecords wrote
        rw [← settles.table] at accepted
        exact accepted
    · exact withheld_failTransaction id _ duringQuery begun

theorem flushWith_error {model : Model} {stamped : Option Handle} {duringQuery : Bool}
    {failure : Failure}
    (ran : (flushWith model id stamped duringQuery).run before = (.error failure, after)) :
    failure.isOrdinary = true ∧ (before.Rejected id ∧ after = before ∨
      (useTransaction id).run before = (.ok (), before.begun id) ∧
        ∃ cause, after = (before.begun id).failTransaction id cause duringQuery) := by
  simp only [flushWith] at ran
  rw [Action.run_bind_ok (Action.run_get before)] at ran
  split at ran
  · cases ran
  · cases used : (useTransaction id).run before with
    | mk outcome begun =>
        cases outcome with
        | error cause =>
            rw [Action.run_bind_error used] at ran
            obtain ⟨same, rfl⟩ := Prod.mk.inj ran
            obtain rfl := Except.error.inj same
            obtain ⟨rejected, ordinary, rfl⟩ := run_useTransaction_error used
            exact ⟨ordinary, .inl ⟨rejected, rfl⟩⟩
        | ok _ =>
            obtain ⟨_, rfl⟩ := run_useTransaction_ok_iff.mp used
            rw [Action.run_bind_ok used, Action.run_bind_ok (Action.run_get _)] at ran
            split at ran
            · cases ran
            · rename_i cause _
              obtain ⟨same, rfl⟩ := Prod.mk.inj ran
              obtain rfl := Except.error.inj same
              exact ⟨rfl, .inr ⟨rfl, cause, rfl⟩⟩

theorem rejected_of_flushWith {model : Model} {stamped : Option Handle} {duringQuery : Bool}
    {failure : Failure} (known : id < before.sessions.length)
    (ran : (flushWith model id stamped duringQuery).run before = (.error failure, after)) :
    after.Rejected id ∧ failure.isOrdinary = true := by
  obtain ⟨ordinary, ⟨rejected, rfl⟩ | ⟨_, cause, rfl⟩⟩ := flushWith_error ran
  · exact ⟨rejected, ordinary⟩
  · refine ⟨rejected_failTransaction ?_ cause duringQuery, ordinary⟩
    rwa [length_sessions_begun]

end Withheld

def Keyless (id : SessionId) (workspace : Workspace) : Prop :=
  workspace.Rejected id ∨
    ∀ handle ∈ (workspace.session id).pending, (workspace.record handle).key = none

def Quiet (id : SessionId) (workspace : Workspace) : Prop :=
  workspace.Rejected id ∨ (workspace.session id).pending = []

/-- Whether a session led from one workspace to another as a call does: it keeps what it does from
the store, and leaves nothing to insert. -/
structure Tentative (model : Model) (id : SessionId) (before after : Workspace) : Prop
    extends Withheld model id before after where
  quiet : id < before.sessions.length → before.Quiet id → after.Quiet id

theorem Tentative.refl (id : SessionId) (workspace : Workspace) :
    Tentative model id workspace workspace :=
  ⟨.refl id workspace, fun _ quiet => quiet⟩

theorem Tentative.trans {id : SessionId} {first second third : Workspace}
    (left : Tentative model id first second) (right : Tentative model id second third) :
    Tentative model id first third :=
  ⟨left.toWithheld.trans right.toWithheld, fun known quiet =>
    right.quiet (Nat.lt_of_lt_of_le known left.sessions) (left.quiet known quiet)⟩

instance (id : SessionId) : IsPreorder Workspace (Tentative model id) where
  refl := Tentative.refl id
  trans _ _ _ := Tentative.trans

section Tentative

variable {id : SessionId} {before after : Workspace}

theorem Quiet.keyless (quiet : before.Quiet id) : before.Keyless id :=
  quiet.imp_right fun nothing _ found => absurd (nothing ▸ found) List.not_mem_nil

theorem Withheld.tentative (withheld : Withheld model id before after)
    (pending : (after.session id).pending = (before.session id).pending) :
    Tentative model id before after :=
  ⟨withheld, fun _ quiet => quiet.imp withheld.rejected pending.trans⟩

theorem Still.quiet (still : Still id before after) (quiet : before.Quiet id) : after.Quiet id :=
  quiet.imp still.rejected_iff.mpr still.pending.trans

theorem Still.tentative (still : Still id before after) : Tentative model id before after :=
  still.toSteady.withheld.tentative still.pending

theorem quiet_of_flushWith (model : Model) (stamped : Option Handle) (duringQuery : Bool)
    (known : id < before.sessions.length) (keyless : before.Keyless id) :
    (((flushWith model id stamped duringQuery).run before).2).Quiet id := by
  cases ran : (flushWith model id stamped duringQuery).run before with
  | mk outcome after =>
      rcases keyless with rejected | keyless
      · have still :=
            (withheld_flushWith model id stamped duringQuery before).rejected rejected
        rw [ran] at still
        exact .inl still
      cases outcome with
      | ok _ =>
          have settled := settledBut_of_flushWith known keyless ran
          exact .inr (settled_of_settledBut settled).noPending
      | error failure => exact .inl (rejected_of_flushWith known ran).1

theorem tentative_flushWith (model : Model) (id : SessionId) (stamped : Option Handle)
    (duringQuery : Bool) : Action.Moves (Tentative model id) (flushWith model id stamped duringQuery) :=
  fun workspace => ⟨withheld_flushWith model id stamped duringQuery workspace,
    fun known quiet => quiet_of_flushWith model stamped duringQuery known quiet.keyless⟩

theorem tentative_useTransaction (id : SessionId) :
    Action.Moves (Tentative model id) (useTransaction id) := by
  intro workspace
  refine (withheld_useTransaction id workspace).tentative ?_
  cases ran : (useTransaction id).run workspace with
  | mk outcome after =>
      cases outcome with
      | ok _ =>
          obtain ⟨_, rfl⟩ := run_useTransaction_ok_iff.mp ran
          exact pending_begun workspace id id
      | error failure =>
          obtain ⟨_, _, rfl⟩ := run_useTransaction_error ran
          rfl

theorem tentative_prepareQuery (model : Model) (id : SessionId) :
    Action.Moves (Tentative model id) (prepareQuery model id) :=
  Action.moves_bind (tentative_flushWith model id none true) fun _ => tentative_useTransaction id

theorem tentative_loadRow (model : Model) (id : SessionId) (row : Row) :
    Action.Moves (Tentative model id) (loadRow model id row) :=
  (still_loadRow model id row).mono Still.tentative

theorem tentative_query {selection : Selection} (same : selection.model = model) (id : SessionId) :
    Action.Moves (Tentative model id) (query id selection) := by
  subst same
  refine Action.moves_bind (tentative_prepareQuery _ id) fun _ => Action.moves_get fun _ => ?_
  refine Action.moves_bind (Action.moves_ofStore _) fun rows => ?_
  exact Action.moves_mapM (tentative_loadRow selection.model id) rows

theorem tentative_countRows {counting : Counting} (same : counting.model = model) (id : SessionId) :
    Action.Moves (Tentative model id) (countRows id counting) := by
  subst same
  exact Action.moves_bind (tentative_prepareQuery _ id) fun _ =>
    Action.moves_get fun _ => Action.moves_ofStore _

theorem tentative_loadIdentity (model : Model) (id : SessionId) (key : Value) :
    Action.Moves (Tentative model id) (loadIdentity model id key) := by
  refine Action.moves_bind (tentative_useTransaction id) fun _ => ?_
  refine Action.moves_bind (Action.moves_ofStore _) fun cell => Action.moves_get fun workspace => ?_
  split
  · exact Action.moves_bind (tentative_loadRow model id _) fun _ => Action.moves_pure _
  · exact Action.moves_pure none

theorem tentative_revive (model : Model) (id : SessionId) (handle : Handle) :
    Action.Moves (Tentative model id) (revive model id handle) := by
  refine Action.moves_bind (tentative_useTransaction id) fun _ => Action.moves_get fun workspace => ?_
  refine Action.moves_bind (Action.moves_ofStore _) fun cell => ?_
  split
  · refine Action.moves_bind (Action.moves_modify fun middle => ?_) fun _ => Action.moves_pure _
    exact (still_changeRecord handle _ middle).tentative
  · refine Action.moves_bind (Action.moves_modify fun middle => ?_) fun _ => Action.moves_pure _
    exact (still_drop id handle middle).tentative

theorem tentative_find (model : Model) (id : SessionId) (identity : Value) :
    Action.Moves (Tentative model id) (find model id identity) := by
  refine Action.moves_bind (Action.moves_ofStore _) fun key => Action.moves_get fun workspace => ?_
  split
  · split
    · exact Action.moves_bind (tentative_flushWith model id none true) fun _ =>
        tentative_revive model id _
    · exact Action.moves_pure _
  · exact Action.moves_bind (tentative_flushWith model id none true) fun _ =>
      tentative_loadIdentity model id key

theorem tentative_refresh (model : Model) (id : SessionId) (handle : Handle) :
    Action.Moves (Tentative model id) (refresh model id handle) := by
  refine Action.moves_bind (tentative_prepareQuery model id) fun _ =>
    Action.moves_get fun workspace => ?_
  refine Action.moves_bind (Action.moves_ofStore _) fun cell => ?_
  split
  · exact Action.moves_modify fun middle => (still_changeRecord handle _ middle).tentative
  · exact Action.moves_fail _

def rowsOf (identity : Value) : Predicate := .ofTest (Test.equals .identity identity)

def erase (id : SessionId) (identity : Value) (workspace : Workspace) : Workspace :=
  let gone := (workspace.session id).attached.filter fun handle =>
    !(workspace.record handle).expired &&
      (((workspace.record handle).get? Attribute.identity.name).getD .null).same identity
  gone.foldl (fun workspace handle => workspace.drop id handle)
    { workspace with
      table := workspace.table.removeWhere fun row => (rowsOf identity).holds row }

theorem deleteIdentity_eq (model : Model) (id : SessionId) (identity : Value) :
    deleteIdentity model id identity = (do
      prepareQuery model id
      Action.ofStore (Token.checkBindings ((rowsOf identity).tokens (.adapter .sqlite) model))
      Action.modify (erase id identity)) := rfl

theorem still_erase (id : SessionId) (identity : Value) (workspace : Workspace) :
    Still id { workspace with
      table := workspace.table.removeWhere fun row => (rowsOf identity).holds row }
      (workspace.erase id identity) :=
  related_foldl (fun middle handle => still_drop id handle middle) _ _

theorem tentative_deleteIdentity (model : Model) (id : SessionId) (identity : Value) :
    Action.Moves (Tentative model id) (deleteIdentity model id identity) := by
  rw [deleteIdentity_eq]
  refine Action.moves_bind_of (tentative_prepareQuery model id) fun start _ begun prepared => ?_
  obtain ⟨_, flushed, _, begins⟩ := Action.run_bind_ok_iff.mp prepared
  cases Token.checkBindings ((rowsOf identity).tokens (.adapter .sqlite) model) with
  | error failure => exact .refl id begun
  | ok _ =>
      have erases := still_erase id identity begun
      refine (withheld_in_transaction begins erases.sessions erases.transaction ?_).tentative
        erases.pending
      rw [erases.table]
      exact .single (.delete _)

end Tentative

end Workspace
end RecordStore
