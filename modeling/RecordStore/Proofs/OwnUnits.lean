import Mathlib.Data.List.Find
import RecordStore.Proofs.JoinedCalls

/-!
Changes that are given no unit of work run in one of their own. Such a change ends as it would have
ended in the only call of a block.
-/

namespace RecordStore
namespace Workspace

variable {model : Model} {id : SessionId}

theorem not_rejected_of_finishWrites {before after : Workspace}
    (ran : (finishWrites model id).run before = (.ok (), after)) : ¬before.Rejected id := by
  rintro ⟨cause, duringQuery, failed⟩
  obtain ⟨_, begun, uses, _⟩ := Action.run_bind_ok_iff.mp ran
  exact (run_useTransaction_ok_iff.mp uses).1 cause duringQuery failed

theorem run_finishWrites_settled {workspace : Workspace} (settled : Settled id workspace)
    (accepted : ¬workspace.Rejected id) :
    (finishWrites model id).run workspace = (.ok (), workspace.begun id) := by
  have sound : ∀ cause duringQuery, (workspace.session id).transaction ≠ .failed cause duringQuery :=
    fun cause duringQuery failed => accepted ⟨cause, duringQuery, failed⟩
  rw [finishWrites, Action.run_bind_ok (run_useTransaction_ok_iff.mpr ⟨sound, rfl⟩)]
  exact run_flushWith_settled (settled_begun settled)

theorem erase_unknown {workspace : Workspace} (identity : Value)
    (unknown : (workspace.session id).attached = []) : workspace.erase id identity = { workspace with
      table := workspace.table.removeWhere fun row => (rowsOf identity).holds row } := by
  simp only [erase, unknown, List.filter_nil, List.foldl_nil]

end Workspace

namespace Repository

open Workspace UnitOfWork

variable {α β : Type} {repository : Repository} {workspace : Workspace}

section Identities

def IdentityReadable (record : Record) : Prop :=
  (record.get? Attribute.identity.name).isSome ∨ record.expired = false

theorem readable_of_readIdentity {model : Model} {record : Handle} {identity : Value}
    {after : Workspace} (ran : (readIdentity model record).run workspace = (.ok identity, after)) :
    IdentityReadable (workspace.record record) := by
  simp only [readIdentity, Action.run_bind, Action.run_get] at ran
  split at ran
  · rename_i held
    exact .inl (by simp [held])
  · split at ran
    · split at ran
      · cases ran
      · split at ran <;> cases ran
    · rename_i fresh
      exact .inr (Bool.eq_false_iff.mpr fresh)

theorem readable_of_holdsRow {model : Model} {record : Handle}
    (holds : HoldsRow model record workspace) : IdentityReadable (workspace.record record) := by
  obtain ⟨row, _, values⟩ := holds
  refine .inl ?_
  rw [Record.get?, values, List.lookup_isSome_iff]
  refine ⟨_, List.mem_map_of_mem (?_ : Attribute.identity ∈ model.attributes), beq_self_eq_true _⟩
  exact List.mem_append_right _ List.mem_cons_self

theorem run_debugRecord_readable (repository : Repository) (verb : String) {record : Handle}
    (readable : IdentityReadable (workspace.record record)) : ∃ journal,
      (repository.debugRecord verb record).run workspace = (.ok (), { workspace with journal }) := by
  have reads : ∃ identity, (readIdentity repository.model record).run workspace =
      (.ok identity, workspace) := by
    simp only [readIdentity, Action.run_bind, Action.run_get]
    split
    · exact ⟨_, rfl⟩
    · rename_i missing
      rcases readable with held | fresh
      · simp [missing] at held
      · simp only [fresh, Bool.false_eq_true, if_false]
        exact ⟨.null, rfl⟩
  obtain ⟨identity, ran⟩ := reads
  rw [debugRecord, Action.run_bind_ok ran]
  exact ⟨_, rfl⟩

end Identities

section Own

def OnlyNotes (action : Action Workspace β) (records : List Record) : Prop :=
  ∃ result, ∀ workspace, workspace.records = records → ∃ journal,
    action.run workspace = (.ok result, { workspace with journal })

theorem onlyNotes_debugRecord (repository : Repository) (verb : String) (value : β) {record : Handle}
    (readable : IdentityReadable (workspace.record record)) :
    OnlyNotes (repository.debugRecord verb record >>= fun _ => pure value) workspace.records := by
  refine ⟨value, fun other records => ?_⟩
  have kept : IdentityReadable (other.record record) := by
    rw [Workspace.record, records]
    exact readable
  obtain ⟨journal, ran⟩ := run_debugRecord_readable repository verb kept
  rw [Action.run_bind_ok ran]
  exact ⟨journal, rfl⟩

theorem works_own (workspace : Workspace) (body : SessionId → Action Workspace α) :
    Works (none : Option SessionId).isNone (sessionIn none workspace)
      (do outside (body (← currentSession))) (body (sessionIn none workspace)) := fun _ => rfl

theorem known_own : ∀ id ∈ (none : Option SessionId), id < workspace.sessions.length :=
  fun _ given => nomatch given

theorem run_changing_error {body : SessionId → Action Workspace α} {failure : Failure}
    {inside : Workspace} (withheld : ∀ id, Action.Moves (Withheld repository.model id) (body id))
    (ran : (body (sessionIn none workspace)).run (opened none workspace) = (.error failure, inside)) :
    ∃ after, (repository.changing none body).run workspace = (.error failure, after) ∧
      after.table = workspace.table := by
  have fails : (repository.changing none body).run workspace = (.error failure, _) :=
    run_around_error (works_own workspace body) ran
  refine ⟨_, fails, ?_⟩
  rw [table_around_error (works_own workspace body) (sessionIn_known known_own) (withheld _) fails,
    storedTable_opened known_own]
  rfl

theorem run_changing_ok (repository : Repository) {body : SessionId → Action Workspace α}
    {value : α} {inside : Workspace}
    (ran : (body (sessionIn none workspace)).run (opened none workspace) = (.ok value, inside))
    (settled : Settled (sessionIn none workspace) inside)
    (accepted : ¬inside.Rejected (sessionIn none workspace)) :
    ∃ after, (repository.changing none body).run workspace = (.ok value, after) ∧
      after.records = inside.records ∧ after.table = inside.table := by
  have finishes : (finishWrites repository.model (sessionIn none workspace)).run inside = _ :=
    run_finishWrites_settled settled accepted
  refine ⟨_, run_around_ok (works_own workspace body) ran finishes, ?_, ?_⟩
  · have closed := records_closeSession (sessionIn none workspace)
      ((inside.begun (sessionIn none workspace)).keepTransaction (sessionIn none workspace))
    exact closed.trans (records_begun inside _)
  · rw [table_released _ (storedTable_keepTransaction _ _)]
    exact table_begun inside _

/-- Whether a change in a unit of its own ended as it ended when it joined the unit: with nothing left
to write after its success, and on the table before it after a failure. -/
def Closes (id : SessionId) (start : Workspace) (joined own : Except Failure α × Workspace) : Prop :=
  own.1 = joined.1 ∧ match joined.1 with
    | .ok _ => Settled id joined.2 ∧ ¬joined.2.Rejected id ∧ own.2.table = joined.2.table
    | .error _ => own.2.table = start.table

/-- Whether an action in units of its own always ends as another on the session that it will make. -/
def Mirrors (id : SessionId) (joined own : Action Workspace α) : Prop :=
  ∀ workspace, workspace.sessions.length = id →
    Closes id workspace (joined.run (opened none workspace)) (own.run workspace)

theorem mirrors_changing {id : SessionId} {body : SessionId → Action Workspace α}
    {next : α → Action Workspace β}
    (withheld : ∀ id, Action.Moves (Withheld repository.model id) (body id))
    (ends : ∀ start value inside, id < start.sessions.length → Settled id start →
      (start.session id).attached = [] → (body id).run start = (.ok value, inside) →
      Settled id inside ∧ ¬inside.Rejected id ∧ OnlyNotes (next value) inside.records) :
    Mirrors id (body id >>= next) (repository.changing none body >>= next) := by
  intro workspace new
  obtain rfl : sessionIn none workspace = id := new
  have known : sessionIn none workspace < (opened none workspace).sessions.length :=
    sessionIn_known known_own
  have settled : Settled (sessionIn none workspace) (opened none workspace) :=
    settled_begun (ready_withSession workspace).settled
  have unknown : ((opened none workspace).session (sessionIn none workspace)).attached = [] := by
    simp [opened, sessionIn, session_withSession]
  -- A body that fails is undone. One that succeeds leaves the commit nothing to write, and what follows
  -- only reads the records, which are the same after the commit.
  cases ran : (body (sessionIn none workspace)).run (opened none workspace) with
  | mk outcome inside =>
      cases outcome with
      | error failure =>
          obtain ⟨after, fails, table⟩ := run_changing_error withheld ran
          refine ⟨?_, ?_⟩
          · rw [Action.run_bind_error ran, Action.run_bind_error fails]
          · rw [Action.run_bind_error ran, Action.run_bind_error fails]
            exact table
      | ok value =>
          obtain ⟨settled, accepted, result, notes⟩ := ends _ value inside known settled unknown ran
          obtain ⟨after, succeeds, records, table⟩ := run_changing_ok repository ran settled accepted
          obtain ⟨journal, joined⟩ := notes inside rfl
          obtain ⟨_, own⟩ := notes after records
          refine ⟨?_, ?_⟩
          · rw [Action.run_bind_ok ran, Action.run_bind_ok succeeds, joined, own]
          · rw [Action.run_bind_ok ran, Action.run_bind_ok succeeds, joined, own]
            exact ⟨⟨settled.noPending, settled.unchanged⟩, accepted, table⟩

def Apart (action : Action Workspace α) : Prop :=
  ∀ workspace, (action.run workspace).2.table = workspace.table ∧
    (action.run workspace).2.sessions.length = workspace.sessions.length ∧
    action.run (opened none workspace) =
      ((action.run workspace).1, opened none (action.run workspace).2)

theorem mirrors_fail (id : SessionId) (failure : Failure) :
    Mirrors id (.fail failure : Action Workspace α) (.fail failure) :=
  fun _ _ => ⟨rfl, rfl⟩

theorem mirrors_bind {id : SessionId} {first : Action Workspace α}
    {joined own : α → Action Workspace β} (apart : Apart first)
    (mirrors : ∀ value, Mirrors id (joined value) (own value)) :
    Mirrors id (first >>= joined) (first >>= own) := by
  intro workspace new
  obtain ⟨table, sessions, same⟩ := apart workspace
  cases ran : first.run workspace with
  | mk outcome middle =>
      rw [ran] at table sessions same
      cases outcome with
      | error failure =>
          rw [Action.run_bind_error same, Action.run_bind_error ran]
          exact ⟨rfl, table⟩
      | ok value =>
          have closes := mirrors value middle (sessions.trans new)
          rw [Action.run_bind_ok same, Action.run_bind_ok ran]
          rw [Closes, table] at closes
          exact closes

theorem opened_none (workspace : Workspace) : opened none workspace =
    (withSession workspace).beginTransaction workspace.sessions.length := by
  have closed : ((withSession workspace).session workspace.sessions.length).transaction.isClosed =
      true := by
    rw [session_withSession]
    rfl
  simp only [opened, begun, closed, if_true]

theorem session_opened {id : SessionId} (known : id < workspace.sessions.length) :
    (opened none workspace).session id = workspace.session id := by
  rw [opened_none, beginTransaction, setTransaction, session_changeSession_of_ne _ (Nat.ne_of_lt known)]
  simp [withSession, Workspace.session, List.getElem?_append_left known]

theorem owner?_opened (workspace : Workspace) (record : Handle) :
    (opened none workspace).owner? record = workspace.owner? record := by
  have length : (opened none workspace).sessions.length = workspace.sessions.length + 1 := by
    simp [opened, withSession]
  have fresh : (opened none workspace).session workspace.sessions.length =
      { transaction := .active workspace.table } := by
    rw [opened_none, beginTransaction, setTransaction, session_changeSession_self]
    · rw [session_withSession]
      rfl
    · simp [withSession]
  rw [owner?, owner?, length, List.range_succ, List.find?_append]
  have last : [workspace.sessions.length].find? (fun id =>
      ((opened none workspace).session id).attached.contains record ||
        ((opened none workspace).session id).pending.contains record) = none := by
    simp [fresh]
  rw [last, Option.or_none]
  refine List.find?_congr fun id listed => ?_
  rw [session_opened (List.mem_range.mp listed)]

theorem apart_readIdentity (model : Model) (record : Handle) : Apart (readIdentity model record) := by
  intro workspace
  have same := state_readIdentity model record workspace
  have held : (opened none workspace).record record = workspace.record record := by
    rw [opened_none]
    rfl
  rw [same]
  refine ⟨rfl, rfl, Prod.ext ?_ (state_readIdentity model record _)⟩
  simp only [readIdentity, Action.run_bind, Action.run_get, held, owner?_opened]
  split
  · rfl
  · split
    · cases found : workspace.owner? record with
      | none => rfl
      | some id =>
          have known := List.mem_range.mp (List.mem_of_find?_eq_some found)
          simp only [session_opened known]
          split <;> rfl
    · rfl

theorem apart_recordValue (model : Model) (record : Handle) : Apart (recordValue model record) := by
  intro workspace
  have held : (opened none workspace).record record = workspace.record record := by
    rw [opened_none]
    rfl
  refine ⟨rfl, rfl, ?_⟩
  simp only [recordValue, Action.run_bind, Action.run_get, held]
  rfl

theorem apart_bind {first : Action Workspace α} {next : α → Action Workspace β} (apart : Apart first)
    (rest : ∀ value, Apart (next value)) : Apart (first >>= next) := by
  intro workspace
  obtain ⟨table, sessions, same⟩ := apart workspace
  cases ran : first.run workspace with
  | mk outcome middle =>
      rw [ran] at table sessions same
      cases outcome with
      | error failure =>
          rw [Action.run_bind_error ran, Action.run_bind_error same]
          exact ⟨table, sessions, rfl⟩
      | ok value =>
          obtain ⟨table', sessions', same'⟩ := rest value middle
          rw [Action.run_bind_ok ran, Action.run_bind_ok same]
          exact ⟨table'.trans table, sessions'.trans sessions, same'⟩

theorem apart_changeRecord (record : Handle) (edit : Record → Record) :
    Apart (Action.modify (changeRecord record edit)) := by
  refine fun workspace => ⟨rfl, rfl, ?_⟩
  rw [Action.run_modify, Action.run_modify, opened_none, opened_none]
  rfl

theorem apart_setAttribute (model : Model) (record : Handle) (name : String) (value : Value) :
    Apart (setAttribute model record name value) := by
  have sets : Apart (if (model.attribute? name).isSome then
      Action.modify (changeRecord record (Record.set name value)) else pure ()) := by
    split
    · exact apart_changeRecord record _
    · exact fun workspace => ⟨rfl, rfl, rfl⟩
  simp only [setAttribute]
  split
  · exact apart_bind (apart_readIdentity model record) fun _ => sets
  · exact sets

end Own

section Changes

variable {id : SessionId}

abbrev ownUnit (id : SessionId) : UnitOfWork SessionId := ⟨true, some id⟩

theorem mirrors_create (record : Handle) : Mirrors id
    (repository.create record (some (ownUnit id))) (repository.create record none) := by
  have inserts : Mirrors id (do
      repository.insert id record
      repository.debugRecord "Created" record
      pure record) (do
      repository.changing none fun session => repository.insert session record
      repository.debugRecord "Created" record
      pure record) := by
    refine mirrors_changing (fun id => (tentative_insert repository id record).mono
      Tentative.toWithheld) fun start _ inside known settled unknown ran => ?_
    obtain ⟨settled, accepted, holds⟩ := insert_stored known (.inr settled.noPending) ran
    exact ⟨settled, accepted, onlyNotes_debugRecord repository _ _ (readable_of_holdsRow holds)⟩
  refine mirrors_bind (apart_readIdentity _ record) fun identity => ?_
  split
  · exact mirrors_bind (apart_recordValue _ record) fun value => mirrors_fail id _
  · split
    · exact mirrors_bind (apart_setAttribute _ record _ _) fun _ => inserts
    · exact inserts

theorem mirrors_save (record : Handle) : Mirrors id
    (repository.save record (some (ownUnit id))) (repository.save record none) := by
  refine mirrors_bind (apart_readIdentity _ record) fun identity => ?_
  split
  · exact mirrors_bind (apart_recordValue _ record) fun value => mirrors_fail id _
  · refine mirrors_changing (fun id => (tentative_saveIn repository id record).mono
      Tentative.toWithheld) fun start saved inside known settled unknown ran => ?_
    obtain ⟨settled, accepted, holds⟩ := saveIn_stored known (.inr settled.noPending) ran
    exact ⟨settled, accepted, onlyNotes_debugRecord repository _ _ (readable_of_holdsRow holds)⟩

theorem mirrors_delete (record : Handle) : Mirrors id
    (repository.delete record (some (ownUnit id))) (repository.delete record none) := by
  refine mirrors_changing (fun id => ((tentative_steps repository id).moves_deleteIn record).mono
    Tentative.toWithheld) fun start _ inside known settled unknown ran => ?_
  obtain ⟨identity, reads, _, rfl, accepted⟩ := deleteIn_ok known settled ran
  have erased := erase_unknown identity ((attached_begun start id id).trans unknown)
  have begins := settled_begun settled
  have readable : IdentityReadable ((start.begun id).record record) := by
    rw [record_begun]
    exact readable_of_readIdentity reads
  have notes := onlyNotes_debugRecord repository "Deleted" () readable
  rw [bind_pure_unit] at notes
  refine ⟨?_, accepted, ?_⟩
  · rw [erased]
    exact ⟨begins.noPending, begins.unchanged⟩
  · rw [erased]
    exact notes

theorem mirrors_firstOrCreate (criteria defaults : List (String × Value)) : Mirrors id
    (repository.firstOrCreate criteria defaults (some (ownUnit id)))
    (repository.firstOrCreate criteria defaults none) := by
  refine mirrors_changing (fun id => ((tentative_steps repository id).moves_firstIn criteria defaults).mono
    Tentative.toWithheld) fun start result inside known settled unknown ran => ?_
  obtain ⟨record, isCreated⟩ := result
  have effect := firstIn_ok known settled ran
  cases isCreated with
  | false =>
      obtain ⟨_, settled, accepted⟩ := effect
      exact ⟨settled, accepted, _, fun other _ => ⟨other.journal, rfl⟩⟩
  | true =>
      obtain ⟨_, settled, accepted, holds⟩ := effect
      exact ⟨settled, accepted, onlyNotes_debugRecord repository _ _ (readable_of_holdsRow holds)⟩

theorem mirrors_perform {Reply : Type} (repository : Repository) (call : Call Reply)
    (changes : call.isChange = true) :
    Mirrors id (call.perform repository (some (ownUnit id))) (call.perform repository none) := by
  cases call with
  | create record => exact mirrors_create record
  | save record => exact mirrors_save record
  | delete record => exact mirrors_delete record
  | firstOrCreate criteria defaults => exact mirrors_firstOrCreate criteria defaults
  | findById | findAll | findPage => cases changes

end Changes

end Repository
end RecordStore
