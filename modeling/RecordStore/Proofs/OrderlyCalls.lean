import RecordStore.Proofs.OrderlySessions
import RecordStore.Proofs.OwnUnits

/-!
Calls keep records orderly. A call with a unit or a session of its own works in a session that knows no
records; however it ends, all records are orderly after it.
-/

namespace RecordStore

def Workspace.Orderly (workspace : Workspace) : Prop := ∀ handle, (workspace.record handle).Orderly

/-- Whether fields can make a record: none is given twice, and the identity is a number or null. -/
structure Plain (fields : List (String × Value)) : Prop where
  distinct : Distinct fields
  identity : ∀ id, (Attribute.identity.name, id) ∈ fields → id = .null ∨ ∃ number, id = .integer number

theorem Plain.assignAll {fields later : List (String × Value)} (plain : Plain fields)
    (plainLater : Plain later) : Plain (assignAll fields later) :=
  ⟨distinct_assignAll later plain.distinct, fun id listed =>
    (mem_assignAll listed).elim (plain.identity id) (plainLater.identity id)⟩

theorem Plain.orderly {fields : List (String × Value)} (plain : Plain fields) :
    ({ values := fields } : Record).Orderly := by
  refine ⟨plain.distinct, .unknown rfl fun id sent => ?_⟩
  rw [Record.sentIdentity?] at sent
  split at sent
  · cases sent
  · rename_i notNull
    rcases plain.identity id (mem_of_lookup sent) with rfl | isInteger
    · exact absurd sent notNull
    · exact isInteger

namespace Repository

open Workspace UnitOfWork

variable {α : Type} {repository : Repository} {workspace : Workspace} {id : SessionId} {record : Handle}

def Call.Proper {Reply : Type} (workspace : Workspace) : Call Reply → Prop
  | .create record => record < workspace.records.length
  | .firstOrCreate criteria defaults => Plain criteria ∧ Plain defaults
  | _ => True

section Sessions

theorem tidy_withSession (orderly : workspace.Orderly) :
    Tidy workspace.sessions.length (withSession workspace) := by
  have session := session_withSession workspace
  refine ⟨by simp [withSession], orderly, ?_, ?_, ?_, ?_⟩ <;> rw [session] <;>
    simp

theorem tidy_opened (orderly : workspace.Orderly) :
    Tidy (sessionIn none workspace) (opened none workspace) :=
  (tidy_withSession orderly).begun

theorem tidy_recorded (note : JournalRecord) (tidy : Tidy id workspace) :
    Tidy id (workspace.recorded note) :=
  tidy.of_lists rfl rfl (fun _ waiting => waiting) (fun _ held => .inr held) (fun _ gone => .inr gone)
    tidy.rekeyed

theorem orderly_closeSession (orderly : workspace.Orderly) : (workspace.closeSession id).Orderly := by
  intro handle
  rw [Workspace.record, records_closeSession]
  exact orderly handle

theorem orderly_changing {body : SessionId → Action Workspace α}
    (kept : Tidy (sessionIn none workspace)
      ((body (sessionIn none workspace)).run (opened none workspace)).2) :
    ((repository.changing none body).run workspace).2.Orderly := by
  have rolls {last : Workspace} (note : JournalRecord) (tidy : Tidy (sessionIn none workspace) last) :
      (((last.recorded note).rollBack (sessionIn none workspace)).closeSession
        (sessionIn none workspace)).Orderly :=
    orderly_closeSession (tidy_recorded note tidy).rollBack.orderly
  cases worked : (body (sessionIn none workspace)).run (opened none workspace) with
  | mk outcome inside =>
      rw [worked] at kept
      cases outcome with
      | error failure =>
          have ran : (repository.changing none body).run workspace = _ :=
            run_around_error (works_own workspace body) worked
          rw [ran]
          exact rolls _ kept
      | ok value =>
          have finishes : Tidy _ ((finishWrites repository.model (sessionIn none workspace)).run inside).2 :=
            Action.moves_bind (keeps_useTransaction _) (fun _ =>
              keeps_flushWith repository.model _ none false) inside kept
          cases finished : (finishWrites repository.model (sessionIn none workspace)).run inside with
          | mk ended flushed =>
              rw [finished] at finishes
              cases ended with
              | error failure =>
                  have ran : (repository.changing none body).run workspace = _ :=
                    run_around_unfinished (works_own workspace body) worked
                      (ordinary_of_finishWrites kept.known finished) finished
                  rw [ran]
                  exact rolls _ finishes
              | ok _ =>
                  have ran : (repository.changing none body).run workspace = _ :=
                    run_around_ok (works_own workspace body) worked finished
                  rw [ran]
                  exact orderly_closeSession finishes.orderly

theorem orderly_reading {body : SessionId → Action Workspace α}
    (keeps : ∀ id, Action.Moves (Keeps id) (body id)) (orderly : workspace.Orderly) :
    ((reading none body).run workspace).2.Orderly := by
  rw [run_reading_own]
  exact orderly_closeSession (keeps _ _ (tidy_withSession orderly)).orderly

end Sessions

section Bodies

theorem keeps_reads (repository : Repository) (id : SessionId) :
    ReadsMove repository id (Keeps id) where
  notes _ _ tidy := ⟨tidy.known, tidy.orderly, tidy.pending, tidy.attached, tidy.removed, tidy.rekeyed⟩
  finds identity := keeps_find repository.model id identity
  queries selection _ := keeps_query id selection
  counts counting _ := keeps_countRows id counting

theorem tidy_insert (repository : Repository) (tidy : Tidy id workspace)
    (bound : record < workspace.records.length) :
    Tidy id ((repository.insert id record).run workspace).2 := by
  have added := tidy_add repository.model tidy bound
  rw [insert, Action.run_bind]
  cases ran : (add repository.model id record).run workspace with
  | mk outcome after =>
      rw [ran] at added
      cases outcome with
      | error failure => exact added
      | ok _ =>
          exact Action.moves_bind (keeps_flushWith repository.model id none false) (fun _ =>
            keeps_refresh repository.model id record) after added

theorem keeps_saveIn (repository : Repository) (id : SessionId) (record : Handle) :
    Action.Moves (Keeps id) (repository.saveIn record id) := by
  refine Action.moves_bind (keeps_merge repository.model id record) fun merged => ?_
  refine Action.moves_bind (keeps_flushWith repository.model id (some merged) false) fun _ => ?_
  exact Action.moves_bind (keeps_refresh repository.model id merged) fun _ => Action.moves_pure _

theorem keeps_deleteIn (repository : Repository) (id : SessionId) (record : Handle) :
    Action.Moves (Keeps id) (repository.deleteIn record id) := by
  refine Action.moves_bind (fun workspace tidy => ?_) fun identity =>
    keeps_deleteIdentity repository.model id identity
  rw [state_readIdentity]
  exact tidy

theorem makeRecord_error {model : Model} {fields : List (String × Value)} {failure : Failure}
    {after : Workspace} (ran : (makeRecord model fields).run workspace = (.error failure, after)) :
    after = workspace := by
  simp only [makeRecord, Action.run_bind, Action.run_ofOutcome] at ran
  cases made : model.newRecord fields with
  | error refused =>
      rw [made] at ran
      exact (Prod.mk.inj ran).2.symm
  | ok value =>
      rw [made] at ran
      cases ran

theorem keeps_firstIn (repository : Repository) (id : SessionId)
    {criteria defaults : List (String × Value)} (plain : Plain criteria) (plainDefaults : Plain defaults) :
    Action.Moves (Keeps id) (repository.firstIn criteria defaults id) := by
  refine Action.moves_bind (Action.moves_ofOutcome _) fun predicates => ?_
  refine Action.moves_bind (keeps_query id _) fun found => ?_
  split
  · exact Action.moves_pure _
  · intro workspace tidy
    cases makes : (makeRecord repository.model (assignAll defaults criteria)).run workspace with
    | mk outcome made =>
        cases outcome with
        | error failure =>
            obtain rfl := makeRecord_error makes
            rw [Action.run_bind_error makes]
            exact tidy
        | ok record =>
            obtain ⟨rfl, rfl⟩ := makeRecord_ok makes
            rw [Action.run_bind_ok makes]
            have fresh := tidy.withRecord (plainDefaults.assignAll plain).orderly
            have bound : workspace.records.length <
                (workspace.withRecord { values := assignAll defaults criteria }).records.length := by
              simp [withRecord]
            have inserted := tidy_insert repository fresh bound
            rw [Action.run_bind]
            cases ran : (repository.insert id workspace.records.length).run
                (workspace.withRecord { values := assignAll defaults criteria }) with
            | mk outcome after =>
                rw [ran] at inserted
                cases outcome with
                | error failure => exact inserted
                | ok _ => exact inserted

end Bodies

section Calls

theorem orderly_debugRecord (repository : Repository) (verb : String) (orderly : workspace.Orderly) :
    ((repository.debugRecord verb record).run workspace).2.Orderly := by
  rw [debugRecord, Action.run_bind]
  have same := state_readIdentity repository.model record workspace
  cases ran : (readIdentity repository.model record).run workspace with
  | mk outcome after =>
      rw [ran] at same
      obtain rfl : after = workspace := same
      cases outcome with
      | error failure => exact orderly
      | ok identity => exact orderly

theorem orderly_bind {β : Type} {action : Action Workspace α} {next : α → Action Workspace β}
    (first : (action.run workspace).2.Orderly)
    (second : ∀ value after, action.run workspace = (.ok value, after) → after.Orderly →
      ((next value).run after).2.Orderly) : ((action >>= next).run workspace).2.Orderly := by
  rw [Action.run_bind]
  cases ran : action.run workspace with
  | mk outcome after =>
      rw [ran] at first
      cases outcome with
      | error failure => exact first
      | ok value => exact second value after ran first

theorem orderly_pureAfter {β : Type} (verb : String) (value : β) (orderly : workspace.Orderly) :
    ((do
      repository.debugRecord verb record
      pure value : Action Workspace β).run workspace).2.Orderly :=
  orderly_bind (orderly_debugRecord repository verb orderly) fun _ _ _ kept => kept

theorem readIdentity_get? {model : Model} {identity : Value} {after : Workspace}
    (ran : (readIdentity model record).run workspace = (.ok identity, after)) :
    (workspace.record record).get? Attribute.identity.name = some identity ∨
      (workspace.record record).get? Attribute.identity.name = none ∧ identity = .null ∧
        (workspace.record record).expired = false := by
  simp only [readIdentity, Action.run_bind, Action.run_get] at ran
  split at ran
  · rename_i held
    obtain rfl := Except.ok.inj (Prod.mk.inj ran).1
    exact .inl held
  · rename_i missing
    split at ran
    · split at ran
      · cases ran
      · split at ran <;> cases ran
    · rename_i fresh
      obtain rfl := Except.ok.inj (Prod.mk.inj ran).1
      exact .inr ⟨missing, rfl, by simpa using fresh⟩

theorem present_of_readIdentity {model : Model} {identity : Value} {after : Workspace}
    (orderly : (workspace.record record).Orderly)
    (ran : (readIdentity model record).run workspace = (.ok identity, after)) :
    (workspace.record record).Present := by
  rcases readIdentity_get? ran with held | ⟨missing, _, fresh⟩
  · exact .inr (by rw [held]; rfl)
  · cases orderly.stands with
    | unknown keyless _ => exact .inl keyless
    | loaded _ _ held _ => exact .inr (by rw [held]; rfl)
    | cleared _ _ held _ => exact .inr (by rw [held]; rfl)
    | lost _ _ _ _ expired => exact absurd (fresh.symm.trans expired) (by simp)

theorem orderly_setAttribute {model : Model} {name : String} {value : Value} (orderly : workspace.Orderly)
    (admits : name = Attribute.identity.name → (workspace.record record).Admits value) :
    ((setAttribute model record name value).run workspace).2.Orderly := by
  have sets (allowed : name = Attribute.identity.name → (workspace.record record).Present ∧
      (workspace.record record).Admits value) : ((if (model.attribute? name).isSome then
      Action.modify (changeRecord record (Record.set name value)) else pure () :
        Action Workspace Unit).run workspace).2.Orderly := by
    split
    · intro other
      rw [Action.run_modify, record_changeRecord]
      split
      · exact Record.orderly_set (orderly record) allowed
      · exact orderly other
    · exact orderly
  simp only [setAttribute]
  split
  · refine orderly_bind ?_ fun identity after ran _ => ?_
    · rw [state_readIdentity]
      exact orderly
    · obtain rfl := readIdentity_ok ran
      exact sets fun same => ⟨present_of_readIdentity (orderly record) ran, admits same⟩
  · rename_i different
    exact sets fun same => absurd same different

theorem orderly_create (orderly : workspace.Orderly) (bound : record < workspace.records.length) :
    ((repository.create record none).run workspace).2.Orderly := by
  have inserts {start : Workspace} (orderly : start.Orderly) (bound : record < start.records.length) :
      ((do
        repository.changing none fun session => repository.insert session record
        repository.debugRecord "Created" record
        pure record : Action Workspace Handle).run start).2.Orderly := by
    refine orderly_bind (orderly_changing ?_) fun _ _ _ kept => orderly_pureAfter _ _ kept
    refine tidy_insert repository (tidy_opened orderly) ?_
    rwa [opened_none]
  refine orderly_bind ?_ fun identity start ran _ => ?_
  · rw [state_readIdentity]
    exact orderly
  obtain rfl := readIdentity_ok ran
  split
  · exact orderly
  · split
    · refine orderly_bind (orderly_setAttribute orderly fun _ => .inl rfl)
        fun _ after sets kept => inserts kept ?_
      rcases setAttribute_ok sets with rfl | rfl
      · exact bound
      · exact (List.length_modify _ _ _).symm ▸ bound
    · exact inserts orderly bound

theorem orderly_save (orderly : workspace.Orderly) :
    ((repository.save record none).run workspace).2.Orderly := by
  refine orderly_bind ?_ fun identity start ran _ => ?_
  · rw [state_readIdentity]
    exact orderly
  obtain rfl := readIdentity_ok ran
  split
  · exact orderly
  · refine orderly_bind (orderly_changing ?_) fun _ _ _ kept => orderly_pureAfter _ _ kept
    exact keeps_saveIn repository _ record _ (tidy_opened orderly)

theorem orderly_delete (orderly : workspace.Orderly) :
    ((repository.delete record none).run workspace).2.Orderly := by
  refine orderly_bind (orderly_changing ?_) fun _ _ _ kept => orderly_debugRecord _ _ kept
  exact keeps_deleteIn repository _ record _ (tidy_opened orderly)

theorem orderly_firstOrCreate {criteria defaults : List (String × Value)} (orderly : workspace.Orderly)
    (plain : Plain criteria) (plainDefaults : Plain defaults) :
    ((repository.firstOrCreate criteria defaults none).run workspace).2.Orderly := by
  refine orderly_bind (orderly_changing ?_) fun result _ _ kept => ?_
  · exact keeps_firstIn repository _ plain plainDefaults _ (tidy_opened orderly)
  · obtain ⟨made, isCreated⟩ := result
    cases isCreated with
    | true => exact orderly_pureAfter _ _ kept
    | false => exact kept

theorem orderly_findById (identity : Value) (orderly : workspace.Orderly) :
    ((repository.findById identity none).run workspace).2.Orderly := by
  refine orderly_bind ?_ fun found _ _ kept => ?_
  · exact orderly_reading (fun id => keeps_find repository.model id identity) orderly
  · split
    · exact kept
    · exact kept

theorem orderly_findAll (catalogue : Catalogue) (request : Request) (limit offset : Int)
    (orderly : workspace.Orderly) :
    ((repository.findAll catalogue request limit offset none).run workspace).2.Orderly := by
  refine orderly_bind orderly fun clauses _ ran kept => ?_
  refine orderly_bind kept fun selection _ ran kept => ?_
  refine orderly_bind kept fun _ _ ran kept => ?_
  exact orderly_reading (fun id => keeps_query id selection) kept

theorem orderly_findPage (catalogue : Catalogue) (request : Request) (page rows : Int)
    (orderly : workspace.Orderly) :
    ((repository.findPage catalogue request page rows none).run workspace).2.Orderly := by
  rw [findPage_eq]
  refine orderly_bind orderly fun clauses _ ran kept => ?_
  refine orderly_bind (orderly_reading (fun id => ?_) kept) fun read _ _ kept => ?_
  · exact (keeps_reads repository id).moves_pageBody clauses _ page rows
  · exact kept

theorem orderly_perform {Reply : Type} (repository : Repository) {call : Call Reply}
    (orderly : workspace.Orderly) (proper : call.Proper workspace) :
    ((call.perform repository none).run workspace).2.Orderly := by
  cases call with
  | create record => exact orderly_create orderly proper
  | save record => exact orderly_save orderly
  | delete record => exact orderly_delete orderly
  | firstOrCreate criteria defaults => exact orderly_firstOrCreate orderly proper.1 proper.2
  | findById identity => exact orderly_findById identity orderly
  | findAll catalogue request limit offset =>
      exact orderly_findAll catalogue request limit offset orderly
  | findPage catalogue request page rows => exact orderly_findPage catalogue request page rows orderly

end Calls

end Repository
end RecordStore
