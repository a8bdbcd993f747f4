import Mathlib.Order.Defs.Unbundled
import RecordStore.Proofs.Flushing
import RecordStore.Repository

/-!
Steps that leave the table and the transaction of a session as they are, however they end.
-/

namespace RecordStore

/-- Whether an action, however it ends, only leads to states that a relation allows. -/
def Action.Moves {State α : Type} (relation : State → State → Prop) (action : Action State α) :
    Prop :=
  ∀ state, relation state (action.run state).2

namespace Action

variable {State α β : Type} {relation : State → State → Prop} {action : Action State α}

theorem moves_attempt (moves : Moves relation action) : Moves relation action.attempt := moves

theorem moves_modify {change : State → State} (moves : ∀ state, relation state (change state)) :
    Moves relation (modify change) := moves

theorem moves_get {next : State → Action State β} (second : ∀ state, Moves relation (next state)) :
    Moves relation (get >>= next) :=
  fun state => second state state

theorem Moves.mono {other : State → State → Prop} (moves : Moves relation action)
    (implies : ∀ {before after}, relation before after → other before after) : Moves other action :=
  fun state => implies (moves state)

variable [IsPreorder State relation]

theorem moves_pure (value : α) : Moves relation (pure value : Action State α) :=
  fun state => refl_of relation state

theorem moves_fail (failure : Failure) : Moves relation (fail failure : Action State α) :=
  fun state => refl_of relation state

theorem moves_ofOutcome (outcome : Except Failure α) :
    Moves relation (ofOutcome outcome : Action State α) :=
  fun state => refl_of relation state

theorem moves_ofStore (outcome : Except StoreFailure α) :
    Moves relation (ofStore outcome : Action State α) :=
  fun state => refl_of relation state

theorem moves_bind_of {next : α → Action State β} (first : Moves relation action)
    (second : ∀ state value after, action.run state = (.ok value, after) →
      relation after ((next value).run after).2) : Moves relation (action >>= next) := by
  intro state
  rw [run_bind]
  cases ran : action.run state with
  | mk outcome after =>
      have here : relation state after := by
        simpa [ran] using first state
      cases outcome with
      | error failure => exact here
      | ok value => exact trans_of relation here (second state value after ran)

theorem moves_bind {next : α → Action State β} (first : Moves relation action)
    (second : ∀ value, Moves relation (next value)) : Moves relation (action >>= next) :=
  moves_bind_of first fun _ value after _ => second value after

theorem moves_mapM {ι : Type} {step : ι → Action State α} (steps : ∀ item, Moves relation (step item))
    (items : List ι) : Moves relation (items.mapM step) := by
  induction items with
  | nil => exact moves_pure []
  | cons item items ih =>
      rw [List.mapM_cons]
      refine moves_bind (steps item) fun result => ?_
      exact moves_bind ih fun results => moves_pure _

end Action

namespace Workspace

structure Steady (id : SessionId) (before after : Workspace) : Prop where
  sessions : before.sessions.length ≤ after.sessions.length
  table : after.table = before.table
  transaction : (after.session id).transaction = (before.session id).transaction

theorem Steady.refl (id : SessionId) (workspace : Workspace) : Steady id workspace workspace :=
  ⟨Nat.le_refl _, rfl, rfl⟩

theorem Steady.trans {id : SessionId} {first second third : Workspace}
    (left : Steady id first second) (right : Steady id second third) : Steady id first third :=
  ⟨Nat.le_trans left.sessions right.sessions, right.table.trans left.table,
    right.transaction.trans left.transaction⟩

instance (id : SessionId) : IsPreorder Workspace (Steady id) where
  refl := Steady.refl id
  trans _ _ _ := Steady.trans

structure Still (id : SessionId) (before after : Workspace) : Prop
    extends Steady id before after where
  pending : (after.session id).pending = (before.session id).pending

theorem Still.refl (id : SessionId) (workspace : Workspace) : Still id workspace workspace :=
  ⟨.refl id workspace, rfl⟩

theorem Still.trans {id : SessionId} {first second third : Workspace}
    (left : Still id first second) (right : Still id second third) : Still id first third :=
  ⟨left.toSteady.trans right.toSteady, right.pending.trans left.pending⟩

instance (id : SessionId) : IsPreorder Workspace (Still id) where
  refl := Still.refl id
  trans _ _ _ := Still.trans

section Still

variable {id : SessionId} {relation : Workspace → Workspace → Prop}

theorem related_foldl_of_mem {ι : Type} [IsPreorder Workspace relation]
    {step : Workspace → ι → Workspace} {items : List ι}
    (steps : ∀ item ∈ items, ∀ workspace, relation workspace (step workspace item))
    (workspace : Workspace) : relation workspace (items.foldl step workspace) := by
  induction items generalizing workspace with
  | nil => exact refl_of relation workspace
  | cons item items ih =>
      refine trans_of relation (steps item List.mem_cons_self workspace) (ih (fun other later => ?_) _)
      exact steps other (List.mem_cons_of_mem _ later)

theorem related_foldl {ι : Type} [IsPreorder Workspace relation] {step : Workspace → ι → Workspace}
    (steps : ∀ workspace item, relation workspace (step workspace item)) (items : List ι)
    (workspace : Workspace) : relation workspace (items.foldl step workspace) :=
  related_foldl_of_mem (fun item _ workspace => steps workspace item) workspace

theorem still_changeRecord (handle : Handle) (edit : Record → Record) (workspace : Workspace) :
    Still id workspace (workspace.changeRecord handle edit) :=
  ⟨⟨Nat.le_refl _, rfl, rfl⟩, rfl⟩

theorem steady_changeSession {change : Session → Session}
    (kept : ∀ session, (change session).transaction = session.transaction) (other : SessionId)
    (workspace : Workspace) : Steady id workspace (workspace.changeSession other change) :=
  ⟨Nat.le_of_eq (length_sessions_changeSession _ _ _).symm, rfl,
    session_changeSession_part _ Session.transaction kept id⟩

theorem still_attach (other : SessionId) (handle : Handle) (workspace : Workspace) :
    Still id workspace (workspace.attach other handle) :=
  ⟨⟨Nat.le_of_eq (length_sessions_attach _).symm, rfl, transaction_attach _ id⟩, pending_attach _ id⟩

theorem still_drop (other : SessionId) (handle : Handle) (workspace : Workspace) :
    Still id workspace (workspace.drop other handle) := by
  refine (still_changeRecord handle _ workspace).trans ⟨steady_changeSession ?_ other _, ?_⟩
  · exact fun _ => rfl
  · refine session_changeSession_part _ Session.pending ?_ id
    exact fun _ => rfl

theorem still_loadRow (model : Model) (other : SessionId) (row : Row) :
    Action.Moves (Still id) (loadRow model other row) := by
  intro workspace
  simp only [loadRow, Action.run_bind, Action.run_get]
  split
  · exact still_changeRecord _ _ workspace
  · refine .trans ?_ (still_attach other _ _)
    exact ⟨⟨Nat.le_refl _, rfl, rfl⟩, rfl⟩

theorem state_readIdentity (model : Model) (handle : Handle) (workspace : Workspace) :
    ((readIdentity model handle).run workspace).2 = workspace := by
  simp only [readIdentity, Action.run_bind, Action.run_get]
  split
  · rfl
  · split
    · split
      · rfl
      · split <;> rfl
    · rfl

theorem readIdentity_ok {model : Model} {handle : Handle} {identity : Value} {before after : Workspace}
    (ran : (readIdentity model handle).run before = (.ok identity, after)) : before = after := by
  have same := state_readIdentity model handle before
  rw [ran] at same
  exact same.symm

theorem still_readIdentity (model : Model) (handle : Handle) :
    Action.Moves (Still id) (readIdentity model handle) := by
  intro workspace
  rw [state_readIdentity]
  exact .refl id workspace

theorem still_setAttribute (model : Model) (handle : Handle) (name : String) (value : Value) :
    Action.Moves (Still id) (setAttribute model handle name value) := by
  have sets : Action.Moves (Still id) (if (model.attribute? name).isSome then
      Action.modify (changeRecord handle (Record.set name value)) else pure ()) := by
    split
    · exact Action.moves_modify (still_changeRecord handle _)
    · exact Action.moves_pure ()
  simp only [setAttribute]
  split
  · exact Action.moves_bind (still_readIdentity model handle) fun _ => sets
  · exact sets

theorem still_makeRecord (model : Model) (fields : List (String × Value)) :
    Action.Moves (Still id) (makeRecord model fields) :=
  Action.moves_bind (Action.moves_ofOutcome _) fun _ _ => ⟨⟨Nat.le_refl _, rfl, rfl⟩, rfl⟩

theorem steady_settleRecord (other : SessionId) (handle : Handle) (workspace : Workspace) :
    Steady id workspace (workspace.settleRecord other handle) := by
  have settled (edit : Record → Record) {change : Session → Session}
      (kept : ∀ session, (change session).transaction = session.transaction) :
      Steady id workspace
        (((workspace.changeRecord handle edit).attach other handle).changeSession other change) :=
    ((still_changeRecord handle edit workspace).trans (still_attach other handle _)).toSteady.trans
      (steady_changeSession kept other _)
  simp only [settleRecord]
  split
  · refine settled _ ?_
    exact fun _ => rfl
  · split
    · exact (still_changeRecord handle _ workspace).toSteady
    · refine settled _ ?_
      exact fun _ => rfl

theorem steady_restoreRecords (other : SessionId) (workspace : Workspace) :
    Steady id workspace (workspace.restoreRecords other) := by
  simp only [restoreRecords, expireAttached, restoreRemoved, restoreKeys, forgetAll]
  refine .trans ?_ (related_foldl (fun middle handle => ?_) _ _)
  · refine .trans ?_ (related_foldl (fun middle handle => ?_) _ _)
    · refine .trans ?_ (related_foldl (fun middle entry => ?_) _ _)
      · refine .trans (related_foldl (fun middle handle => ?_) _ workspace)
          (steady_changeSession ?_ other _)
        · exact (still_changeRecord handle _ middle).toSteady
        · exact fun _ => rfl
      · have rekeyed : Still id middle (middle.changeRecord entry.1 fun record =>
            { record with key := some entry.2 }) := still_changeRecord entry.1 _ middle
        split
        · exact rekeyed.toSteady
        · exact (rekeyed.trans (still_attach other entry.1 _)).toSteady
    · split
      · exact .refl id middle
      · exact ((still_changeRecord handle _ middle).trans (still_attach other handle _)).toSteady
  · exact (still_changeRecord handle _ middle).toSteady

theorem steady_add (model : Model) (other : SessionId) (handle : Handle) :
    Action.Moves (Steady id) (add model other handle) := by
  intro workspace
  simp only [add, Action.run_bind, Action.run_get]
  split
  · split
    · exact .refl id workspace
    · exact .refl id workspace
  · refine steady_changeSession ?_ other workspace
    exact fun _ => rfl
  · split
    · exact .refl id workspace
    · split
      · exact .refl id workspace
      · exact (still_attach other handle workspace).toSteady

end Still

end Workspace
end RecordStore
