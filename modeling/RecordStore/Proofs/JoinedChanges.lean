import RecordStore.Proofs.Listings
import RecordStore.Proofs.Transactions

/-!
What the operations of a repository do in the transaction of the unit of work that they join.
-/

namespace RecordStore

theorem Record.key_setAll (values : List (String × Value)) (record : Record) :
    (record.setAll values).key = record.key := by
  induction values generalizing record with
  | nil => rfl
  | cons entry values ih => exact ih (record.set entry.1 entry.2)

namespace Workspace

variable {model : Model} {id : SessionId} {α β : Type}

/-- Whether an action that began with nothing to insert ended well: then all that is left to insert
is unknown to the store, and after a failure there is nothing. -/
def Leaves (id : SessionId) (ended : Except Failure α × Workspace) : Prop :=
  match ended with
  | (.ok _, after) => after.Keyless id
  | (.error _, after) => after.Quiet id

theorem leaves_bind {action : Action Workspace α} {next : α → Action Workspace β}
    {workspace : Workspace} (moves : Action.Moves (Tentative model id) action)
    (known : id < workspace.sessions.length) (quiet : workspace.Quiet id)
    (rest : ∀ value middle, id < middle.sessions.length → middle.Quiet id →
      Leaves id ((next value).run middle)) : Leaves id ((action >>= next).run workspace) := by
  have moved := moves workspace
  rw [Action.run_bind]
  cases ran : action.run workspace with
  | mk outcome middle =>
      rw [ran] at moved
      have quiet' := moved.quiet known quiet
      cases outcome with
      | error failure => exact quiet'
      | ok value => exact rest value middle (Nat.lt_of_lt_of_le known moved.sessions) quiet'

theorem leaves_then {action : Action Workspace α} {next : α → Action Workspace β}
    {workspace : Workspace} (leaves : Leaves id (action.run workspace))
    (rest : ∀ value middle, middle.Keyless id → Leaves id ((next value).run middle)) :
    Leaves id ((action >>= next).run workspace) := by
  rw [Action.run_bind]
  cases ran : action.run workspace with
  | mk outcome middle =>
      rw [ran] at leaves
      cases outcome with
      | error failure => exact leaves
      | ok value => exact rest value middle leaves

theorem quiet_of_leaves {action : Action Workspace α} {next : α → Unit → Action Workspace β}
    {stamped : α → Option Handle} {duringQuery : Bool} {workspace : Workspace}
    (moves : Action.Moves (Withheld model id) action) (known : id < workspace.sessions.length)
    (leaves : Leaves id (action.run workspace))
    (rest : ∀ value done, Action.Moves (Tentative model id) (next value done)) :
    ((action >>= fun value => flushWith model id (stamped value) duringQuery >>=
      next value).run workspace).2.Quiet id := by
  have moved := moves workspace
  rw [Action.run_bind]
  cases ran : action.run workspace with
  | mk outcome middle =>
      rw [ran] at moved leaves
      have known' := Nat.lt_of_lt_of_le known moved.sessions
      cases outcome with
      | error failure => exact leaves
      | ok value =>
          have flushes := withheld_flushWith model id (stamped value) duringQuery middle
          have quiet := quiet_of_flushWith model (stamped value) duringQuery known' leaves
          simp only [Action.run_bind]
          cases ran' : (flushWith model id (stamped value) duringQuery).run middle with
          | mk outcome after =>
              rw [ran'] at flushes quiet
              cases outcome with
              | error failure => exact quiet
              | ok done =>
                  exact (rest value done after).quiet (Nat.lt_of_lt_of_le known' flushes.sessions) quiet

theorem keyless_changeRecord {handle : Handle} {edit : Record → Record}
    (key : ∀ record, (edit record).key = record.key) {workspace : Workspace}
    (keyless : workspace.Keyless id) : (workspace.changeRecord handle edit).Keyless id := by
  refine keyless.imp_right fun unknown other waiting => ?_
  rw [record_changeRecord]
  split
  · rename_i found
    rw [key, ← found.1]
    exact unknown other waiting
  · exact unknown other waiting

theorem leaves_add (model : Model) (handle : Handle) {workspace : Workspace}
    (known : id < workspace.sessions.length) (quiet : workspace.Quiet id) :
    Leaves id ((add model id handle).run workspace) := by
  simp only [add, Action.run_bind, Action.run_get]
  split
  · split
    · exact quiet.keyless
    · exact quiet
  · rename_i keyless
    have session : (workspace.changeSession id fun session =>
        { session with pending := session.pending ++ [handle] }).session id =
        { workspace.session id with pending := (workspace.session id).pending ++ [handle] } :=
      session_changeSession_self _ known
    rcases quiet with ⟨cause, duringQuery, failed⟩ | nothing
    · refine .inl ⟨cause, duringQuery, ?_⟩
      rw [session]
      exact failed
    · refine .inr fun other waiting => ?_
      rw [session, nothing] at waiting
      obtain rfl := List.mem_singleton.mp waiting
      exact keyless
  · split
    · exact quiet
    · split
      · exact quiet
      · exact ((still_attach id handle workspace).quiet quiet).keyless

def foundOrNew (model : Model) (id : SessionId) : Option Handle → Action Workspace Handle
  | some handle => pure handle
  | none => do
    let handle ← addRecord { values := [] }
    add model id handle
    pure handle

theorem leaves_foundOrNew (model : Model) (found : Option Handle) {workspace : Workspace}
    (known : id < workspace.sessions.length) (quiet : workspace.Quiet id) :
    Leaves id ((foundOrNew model id found).run workspace) := by
  cases found with
  | some handle => exact quiet.keyless
  | none =>
      have added : Action.Moves (Tentative model id) (addRecord { values := [] }) :=
        fun _ => Still.tentative ⟨⟨Nat.le_refl _, rfl, rfl⟩, rfl⟩
      refine leaves_bind added known quiet fun handle last known quiet => ?_
      exact leaves_then (leaves_add model handle known quiet) fun _ _ keyless => keyless

theorem leaves_mergeTarget (model : Model) (source : Record) {workspace : Workspace}
    (known : id < workspace.sessions.length) (quiet : workspace.Quiet id) :
    Leaves id ((mergeTarget model id source).run workspace) := by
  have chosen (found : Option Handle) (middle : Workspace) (known : id < middle.sessions.length)
      (quiet : middle.Quiet id) : Leaves id ((foundOrNew model id found).run middle) :=
    leaves_foundOrNew model found known quiet
  simp only [mergeTarget]
  rw [Action.run_bind_ok (Action.run_get workspace)]
  split
  · split
    · exact leaves_bind (tentative_revive model id _) known quiet chosen
    · exact chosen (some _) workspace known quiet
  · exact leaves_bind (tentative_loadIdentity model id _) known quiet chosen

theorem withheld_foundOrNew (model : Model) (found : Option Handle) :
    Action.Moves (Withheld model id) (foundOrNew model id found) := by
  cases found with
  | some handle => exact Action.moves_pure _
  | none =>
      refine Action.moves_bind (fun middle => ?_) fun handle => Action.moves_bind
        ((steady_add model id handle).mono Steady.withheld) fun _ => Action.moves_pure _
      exact Steady.withheld ⟨Nat.le_refl _, rfl, rfl⟩

theorem withheld_mergeTarget (model : Model) (source : Record) :
    Action.Moves (Withheld model id) (mergeTarget model id source) := by
  refine Action.moves_get fun workspace => ?_
  split
  · split
    · exact Action.moves_bind ((tentative_revive model id _).mono Tentative.toWithheld)
        (withheld_foundOrNew model)
    · exact Action.moves_bind (Action.moves_pure _) (withheld_foundOrNew model)
  · exact Action.moves_bind ((tentative_loadIdentity model id _).mono Tentative.toWithheld)
      (withheld_foundOrNew model)

theorem leaves_merge (model : Model) (handle : Handle) {workspace : Workspace}
    (known : id < workspace.sessions.length) (quiet : workspace.Quiet id) :
    Leaves id ((merge model id handle).run workspace) := by
  refine leaves_bind (tentative_flushWith model id none true) known quiet
    fun _ middle known quiet => ?_
  rw [Action.run_bind_ok (Action.run_get middle)]
  refine leaves_then (leaves_mergeTarget model _ known quiet) fun target last keyless => ?_
  split
  · exact keyless_changeRecord (fun record => Record.key_setAll _ record) keyless
  · exact keyless

theorem withheld_merge (model : Model) (handle : Handle) :
    Action.Moves (Withheld model id) (merge model id handle) := by
  refine Action.moves_bind (withheld_flushWith model id none true) fun _ =>
    Action.moves_get fun workspace => ?_
  refine Action.moves_bind (withheld_mergeTarget model _) fun target => ?_
  split
  · refine Action.moves_bind (Action.moves_modify fun middle => ?_) fun _ => Action.moves_pure _
    exact (still_changeRecord target _ middle).toSteady.withheld
  · exact Action.moves_pure _

end Workspace

namespace Repository

open Workspace

variable {repository : Repository} {unit : UnitOfWork SessionId} {id : SessionId} {α : Type}

theorem tentative_insert (repository : Repository) (id : SessionId) (record : Handle) :
    Action.Moves (Tentative repository.model id) (repository.insert id record) := by
  have adds : Action.Moves (Withheld repository.model id) (add repository.model id record) :=
    (steady_add repository.model id record).mono Steady.withheld
  have refreshes := tentative_refresh repository.model id record
  intro workspace
  refine ⟨?_, fun known quiet => ?_⟩
  · exact Action.moves_bind adds (fun _ => Action.moves_bind
      (withheld_flushWith repository.model id none false)
      fun _ => refreshes.mono Tentative.toWithheld) workspace
  · exact quiet_of_leaves adds known (leaves_add repository.model record known quiet)
      fun _ _ => refreshes

def saveIn (repository : Repository) (record : Handle) (session : SessionId) :
    Action Workspace Handle := do
  let merged ← merge repository.model session record
  flushStamped repository.model session merged
  refresh repository.model session merged
  pure merged

theorem tentative_saveIn (repository : Repository) (id : SessionId) (record : Handle) :
    Action.Moves (Tentative repository.model id) (repository.saveIn record id) := by
  have refreshes (merged : Handle) : Action.Moves (Tentative repository.model id) (do
      refresh repository.model id merged
      pure merged) :=
    Action.moves_bind (tentative_refresh repository.model id merged) fun _ => Action.moves_pure _
  intro workspace
  refine ⟨?_, fun known quiet => ?_⟩
  · exact Action.moves_bind (withheld_merge repository.model record) (fun merged => Action.moves_bind
      (withheld_flushWith repository.model id (some merged) false)
      fun _ => (refreshes merged).mono Tentative.toWithheld) workspace
  · exact quiet_of_leaves (withheld_merge repository.model record) known
      (leaves_merge repository.model record known quiet) fun merged _ => refreshes merged

def deleteIn (repository : Repository) (record : Handle) (session : SessionId) :
    Action Workspace Unit := do
  let identity ← readIdentity repository.model record
  deleteIdentity repository.model session identity

def firstIn (repository : Repository) (criteria defaults : List (String × Value))
    (session : SessionId) : Action Workspace (Handle × Bool) := do
  let predicates ← Action.ofOutcome (criteriaPredicates repository.model criteria)
  match ← query session (firstSelection repository.model predicates) with
  | found :: _ => pure (found, false)
  | [] => do
    let record ← makeRecord repository.model (assignAll defaults criteria)
    repository.insert session record
    pure (record, true)

theorem model_buildSelection {registry : Registry} {model : Model} {clauses : List Clause}
    {terms : List SortTerm} {limit offset : Int} {selection : Selection}
    (built : buildSelection registry model clauses terms limit offset = .ok selection) :
    selection.model = model := by
  obtain ⟨_, _, _, _, rfl⟩ := buildSelection_ok_iff.mp built
  rfl

theorem model_buildCounting {registry : Registry} {model : Model} {clauses : List Clause}
    {counting : Counting} (built : buildCounting registry model clauses = .ok counting) :
    counting.model = model := by
  obtain ⟨_, _, same⟩ := bind_eq_ok_iff.mp built
  cases same
  rfl

theorem sessionOf_held (held : unit.session = some id) : sessionOf unit = pure id := by
  simp only [sessionOf, held]

theorem changing_joined (held : unit.session = some id) (body : SessionId → Action Workspace α) :
    repository.changing (some unit) body = body id := by
  simp only [changing, sessionOf_held held, pure_bind]

theorem reading_joined (held : unit.session = some id) (body : SessionId → Action Workspace α) :
    reading (some unit) body = body id := by
  simp only [reading, sessionOf_held held, pure_bind]

structure ReadsMove (repository : Repository) (id : SessionId) (relation : Workspace → Workspace → Prop) :
    Prop where
  notes : ∀ message, Action.Moves relation (debug message)
  finds : ∀ identity, Action.Moves relation (find repository.model id identity)
  queries : ∀ selection, selection.model = repository.model → Action.Moves relation (query id selection)
  counts : ∀ counting, counting.model = repository.model → Action.Moves relation (countRows id counting)

/-- Whether the steps that the calls of a repository take in a session, and those between the calls, only
lead to workspaces that a relation allows. -/
structure StepsMove (repository : Repository) (id : SessionId) (relation : Workspace → Workspace → Prop) :
    Prop extends ReadsMove repository id relation where
  makes : ∀ fields, Action.Moves relation (makeRecord repository.model fields)
  identifies : ∀ record, Action.Moves relation (readIdentity repository.model record)
  assigns : ∀ record name value,
    Action.Moves relation (setAttribute repository.model record name value)
  inserts : ∀ record, Action.Moves relation (repository.insert id record)
  saves : ∀ record, Action.Moves relation (repository.saveIn record id)
  deletes : ∀ identity, Action.Moves relation (deleteIdentity repository.model id identity)

section Joined

variable {relation : Workspace → Workspace → Prop} [IsPreorder Workspace relation]

theorem ReadsMove.moves_pageBody (reads : ReadsMove repository id relation) (clauses : List Clause)
    (terms : List SortTerm) (page rows : Int) :
    Action.Moves relation (repository.pageBody clauses terms page rows id) := by
  refine Action.moves_bind_of (Action.moves_ofOutcome _) fun _ counting counted ran => ?_
  have counts := (Action.run_ofOutcome_ok_iff.mp ran).1
  refine Action.moves_bind (reads.counts counting (model_buildCounting counts)) (fun total => ?_) counted
  refine Action.moves_bind (Action.moves_ofOutcome _) fun window => ?_
  refine Action.moves_bind_of (Action.moves_ofOutcome _) fun _ selection start ran => ?_
  have built := (Action.run_ofOutcome_ok_iff.mp ran).1
  exact Action.moves_bind (reads.queries selection (model_buildSelection built))
    (fun records => Action.moves_pure _) start

theorem ReadsMove.moves_findById (reads : ReadsMove repository id relation)
    (held : unit.session = some id) (identity : Value) :
    Action.Moves relation (repository.findById identity (some unit)) := by
  simp only [findById]
  rw [reading_joined held]
  refine Action.moves_bind (reads.finds identity) fun found => ?_
  split
  · exact Action.moves_pure _
  · exact Action.moves_fail _

theorem ReadsMove.moves_findAll (reads : ReadsMove repository id relation)
    (held : unit.session = some id) (catalogue : Catalogue) (request : Request) (limit offset : Int) :
    Action.Moves relation (repository.findAll catalogue request limit offset (some unit)) := by
  refine Action.moves_bind (Action.moves_ofOutcome _) fun clauses => ?_
  refine Action.moves_bind_of (Action.moves_ofOutcome _) fun _ selection after ran => ?_
  have built := (Action.run_ofOutcome_ok_iff.mp ran).1
  rw [reading_joined held]
  exact Action.moves_bind (reads.notes _)
    (fun _ => reads.queries selection (model_buildSelection built)) after

theorem ReadsMove.moves_findPage (reads : ReadsMove repository id relation)
    (held : unit.session = some id) (catalogue : Catalogue) (request : Request) (page rows : Int) :
    Action.Moves relation (repository.findPage catalogue request page rows (some unit)) := by
  rw [findPage_eq]
  refine Action.moves_bind (Action.moves_ofOutcome _) fun clauses => ?_
  rw [reading_joined held]
  refine Action.moves_bind (reads.moves_pageBody clauses _ page rows) fun read => ?_
  exact Action.moves_bind (reads.notes _) fun _ => Action.moves_pure _

theorem StepsMove.moves_debugRecord (steps : StepsMove repository id relation) (verb : String)
    (record : Handle) : Action.Moves relation (repository.debugRecord verb record) :=
  Action.moves_bind (steps.identifies record) fun _ => steps.notes _

theorem StepsMove.moves_deleteIn (steps : StepsMove repository id relation) (record : Handle) :
    Action.Moves relation (repository.deleteIn record id) :=
  Action.moves_bind (steps.identifies record) fun identity => steps.deletes identity

theorem StepsMove.moves_firstIn (steps : StepsMove repository id relation)
    (criteria defaults : List (String × Value)) :
    Action.Moves relation (repository.firstIn criteria defaults id) := by
  refine Action.moves_bind (Action.moves_ofOutcome _) fun predicates => ?_
  refine Action.moves_bind (steps.queries (firstSelection repository.model predicates) rfl) fun found => ?_
  split
  · exact Action.moves_pure _
  · refine Action.moves_bind (steps.makes _) fun record => ?_
    exact Action.moves_bind (steps.inserts record) fun _ => Action.moves_pure _

theorem StepsMove.moves_create (steps : StepsMove repository id relation) (held : unit.session = some id)
    (record : Handle) : Action.Moves relation (repository.create record (some unit)) := by
  have inserts : Action.Moves relation (do
      repository.changing (some unit) fun session => repository.insert session record
      repository.debugRecord "Created" record
      pure record) := by
    rw [changing_joined held]
    exact Action.moves_bind (steps.inserts record) fun _ =>
      Action.moves_bind (steps.moves_debugRecord _ record) fun _ => Action.moves_pure _
  refine Action.moves_bind (steps.identifies record) fun identity => ?_
  split
  · exact Action.moves_get fun workspace => Action.moves_fail _
  · split
    · exact Action.moves_bind (steps.assigns record _ _) fun _ => inserts
    · exact inserts

theorem StepsMove.moves_save (steps : StepsMove repository id relation) (held : unit.session = some id)
    (record : Handle) : Action.Moves relation (repository.save record (some unit)) := by
  refine Action.moves_bind (steps.identifies record) fun identity => ?_
  split
  · exact Action.moves_get fun workspace => Action.moves_fail _
  · rw [changing_joined held]
    exact Action.moves_bind (steps.saves record) fun saved =>
      Action.moves_bind (steps.moves_debugRecord _ saved) fun _ => Action.moves_pure _

theorem StepsMove.moves_delete (steps : StepsMove repository id relation) (held : unit.session = some id)
    (record : Handle) : Action.Moves relation (repository.delete record (some unit)) := by
  simp only [delete]
  rw [changing_joined held]
  exact Action.moves_bind (steps.moves_deleteIn record) fun _ => steps.moves_debugRecord _ record

theorem StepsMove.moves_firstOrCreate (steps : StepsMove repository id relation)
    (held : unit.session = some id) (criteria defaults : List (String × Value)) :
    Action.Moves relation (repository.firstOrCreate criteria defaults (some unit)) := by
  simp only [firstOrCreate]
  rw [changing_joined held]
  refine Action.moves_bind (steps.moves_firstIn criteria defaults) fun result => ?_
  split
  · exact Action.moves_bind (steps.moves_debugRecord _ _) fun _ => Action.moves_pure _
  · exact Action.moves_pure _

end Joined

theorem tentative_steps (repository : Repository) (id : SessionId) :
    StepsMove repository id (Tentative repository.model id) where
  notes _ _ := Still.tentative ⟨⟨Nat.le_refl _, rfl, rfl⟩, rfl⟩
  finds identity := tentative_find repository.model id identity
  queries _ same := tentative_query same id
  counts _ same := tentative_countRows same id
  makes fields := (still_makeRecord repository.model fields).mono Still.tentative
  identifies record := (still_readIdentity repository.model record).mono Still.tentative
  assigns record name value :=
    (still_setAttribute repository.model record name value).mono Still.tentative
  inserts record := tentative_insert repository id record
  saves record := tentative_saveIn repository id record
  deletes identity := tentative_deleteIdentity repository.model id identity

end Repository
end RecordStore
