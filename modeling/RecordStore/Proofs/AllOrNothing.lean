import RecordStore.Model.Samples
import RecordStore.Proofs.OwnUnits

/-!
Units of work are all or nothing: a block keeps what all of its calls did, one after the other, or
nothing. A change that has a unit of its own is such a block of one call.
-/

namespace RecordStore

open Repository Workspace UnitOfWork

variable {α : Type} {repository : Repository} {body : Body α} {source : Option SessionId}
  {workspace : Workspace}

def entered (source : Option SessionId) (workspace : Workspace) : UnitOfWork SessionId :=
  ⟨source.isNone, some (sessionIn source workspace)⟩

theorem session_entered (source : Option SessionId) (workspace : Workspace) :
    (entered source workspace).session = some (sessionIn source workspace) := rfl

theorem ofSources_eq_ok {hasFactory : Bool} {unit : UnitOfWork SessionId}
    (made : UnitOfWork.ofSources source hasFactory = .ok unit) : unit = ⟨source.isNone, source⟩ := by
  cases source with
  | none =>
      cases hasFactory with
      | true => exact (Except.ok.inj made).symm
      | false => cases made
  | some given =>
      cases hasFactory with
      | true => cases made
      | false => exact (Except.ok.inj made).symm

theorem works_block (repository : Repository) (body : Body α) (source : Option SessionId)
    (workspace : Workspace) :
    Works source.isNone (sessionIn source workspace) (do
      UnitOfWork.outside (body.run repository (← UnitOfWork.self)))
      (body.run repository (entered source workspace)) := fun _ => rfl

theorem withheld_block (repository : Repository) (body : Body α) (source : Option SessionId)
    (workspace : Workspace) :
    Action.Moves (Withheld repository.model (sessionIn source workspace))
      (body.run repository (entered source workspace)) :=
  (tentative_run (session_entered source workspace) repository body).mono Tentative.toWithheld

def Saved (id : SessionId) (workspace : Workspace) : Prop :=
  ∀ handle ∈ (workspace.session id).attached, (workspace.record handle).changes = []

theorem quiet_begun {id : SessionId} (quiet : workspace.Quiet id) : (workspace.begun id).Quiet id := by
  rcases quiet with rejected | nothing
  · exact .inl (rejected_begun rejected)
  · exact .inr ((pending_begun workspace id id).trans nothing)

theorem quiet_opened (quiet : ∀ given ∈ source, workspace.Quiet given) :
    (opened source workspace).Quiet (sessionIn source workspace) := by
  cases source with
  | none => exact .inr (settled_begun (ready_withSession workspace).settled).noPending
  | some given => exact quiet_begun (quiet given rfl)

section Ends

variable (repository : Repository) (body : Body α) (source : Option SessionId) (workspace : Workspace)

def bodyEnd : Except Failure α × Workspace :=
  (body.run repository (entered source workspace)).run (opened source workspace)

def blockEnd : Except Failure α × Workspace :=
  (body.inBlock repository ⟨source.isNone, source⟩).run workspace

variable {repository body source workspace}

theorem block_error {failure : Failure}
    (fails : (bodyEnd repository body source workspace).1 = .error failure) :
    (blockEnd repository body source workspace).1 = .error failure := by
  have ran : (body.run repository (entered source workspace)).run (opened source workspace) =
      (.error failure, _) := Prod.ext fails rfl
  have ended : blockEnd repository body source workspace = _ :=
    run_around_error (works_block repository body source workspace) ran
  rw [ended]

theorem body_of_block_ok (known : ∀ id ∈ source, id < workspace.sessions.length) {value : α}
    (succeeds : (blockEnd repository body source workspace).1 = .ok value) :
    (bodyEnd repository body source workspace).1 = .ok value ∧
      ¬(bodyEnd repository body source workspace).2.Rejected (sessionIn source workspace) := by
  have ended : blockEnd repository body source workspace = (.ok value, _) := Prod.ext succeeds rfl
  obtain ⟨inside, flushed, worked, finished, _⟩ :=
    (run_around_ok_iff (works_block repository body source workspace) (sessionIn_known known)
      (withheld_block repository body source workspace)).mp ended
  rw [bodyEnd, worked]
  exact ⟨rfl, not_rejected_of_finishWrites finished⟩

theorem block_ok {value : α} (succeeds : (bodyEnd repository body source workspace).1 = .ok value)
    (accepted : ¬(bodyEnd repository body source workspace).2.Rejected (sessionIn source workspace))
    (settled : Settled (sessionIn source workspace) (bodyEnd repository body source workspace).2) :
    (blockEnd repository body source workspace).1 = .ok value ∧
      (blockEnd repository body source workspace).2.table =
        (bodyEnd repository body source workspace).2.table := by
  have ran : (body.run repository (entered source workspace)).run (opened source workspace) =
      (.ok value, _) := Prod.ext succeeds rfl
  have ended : blockEnd repository body source workspace = _ :=
    run_around_ok (works_block repository body source workspace) ran
      (run_finishWrites_settled settled accepted)
  rw [ended, table_released _ (storedTable_keepTransaction _ _)]
  exact ⟨rfl, table_begun _ _⟩

end Ends

section Calls

variable (repository : Repository) (source : Option SessionId) (workspace : Workspace)

theorem accepted_inside_iff (body : Body α) :
    ¬(bodyEnd repository body source workspace).2.Rejected (sessionIn source workspace) ↔
      ¬(opened source workspace).Rejected (sessionIn source workspace) ∧
        ∀ step ∈ body.steps repository (entered source workspace) (opened source workspace),
          ¬step.after.Rejected (sessionIn source workspace) := by
  have held := session_entered source workspace
  constructor
  · intro accepted
    refine ⟨fun rejected => accepted ?_, fun step listed rejected => accepted ?_⟩
    · exact (tentative_run held repository body (opened source workspace)).rejected rejected
    · exact rejected_of_mem_steps held listed rejected
  · rintro ⟨before, during⟩ rejected
    rcases rejected_of_run rejected with here | ⟨step, listed, later⟩
    · exact before here
    · exact during step listed later

theorem table_block_error {body : Body α} (known : ∀ id ∈ source, id < workspace.sessions.length)
    {failure : Failure} (fails : (blockEnd repository body source workspace).1 = .error failure) :
    (blockEnd repository body source workspace).2.table = keptBefore source workspace := by
  have restored := table_around_error (works_block repository body source workspace)
    (sessionIn_known known) (withheld_block repository body source workspace) (Prod.ext fails rfl)
  exact restored.trans (storedTable_opened known)

theorem effects_of_block (body : Body α) (known : ∀ id ∈ source, id < workspace.sessions.length)
    (quiet : ∀ given ∈ source, workspace.Quiet given) :
    Linked workspace.table (bodyEnd repository body source workspace).2.table
        (body.steps repository (entered source workspace) (opened source workspace)) ∧
      ∀ step ∈ body.steps repository (entered source workspace) (opened source workspace),
        step.Effect repository.model (sessionIn source workspace) := by
  have held := session_entered source workspace
  refine ⟨?_, fun step listed => ?_⟩
  · rw [← table_opened source workspace]
    exact linked_steps body (opened source workspace)
  · obtain ⟨known, quiet, ran⟩ :=
      ran_of_mem_steps held (sessionIn_known known) (quiet_opened quiet) listed
    exact effect_of_run held known quiet ran

/-- A change that has a unit of its own ends as the block whose body only makes this change. -/
theorem own_is_block {Reply : Type} (call : Call Reply) (changes : call.isChange = true) :
    ((call.perform repository none).run workspace).1 =
        (blockEnd repository (.only call) none workspace).1 ∧
      ((call.perform repository none).run workspace).2.table =
        (blockEnd repository (.only call) none workspace).2.table := by
  have closes : Closes (sessionIn none workspace) workspace
      ((call.perform repository (some (entered none workspace))).run (opened none workspace))
      ((call.perform repository none).run workspace) :=
    mirrors_perform repository call changes workspace rfl
  rw [← Body.run_only] at closes
  obtain ⟨same, closes⟩ := closes
  rw [same]
  cases ended : (bodyEnd repository (.only call) none workspace).1 with
  | error failure =>
      have fails := block_error ended
      rw [bodyEnd] at ended
      rw [ended] at closes ⊢
      have restored := table_block_error repository none workspace known_own fails
      exact ⟨fails.symm, closes.trans restored.symm⟩
  | ok value =>
      have ended' := ended
      rw [bodyEnd] at ended'
      rw [ended'] at closes ⊢
      obtain ⟨settled, accepted, table⟩ := closes
      obtain ⟨succeeds, kept⟩ := block_ok ended accepted settled
      exact ⟨succeeds.symm, table.trans kept.symm⟩

end Calls

/-- Units of work are all or nothing. Calls join a block of a unit over a given session or over a
factory of sessions; a given session has no record of its own to insert. If the calls leave no set
attribute unsaved, the block ends with success exactly if its body does and the store rejected no
write. The table is then the one that the calls made of the table before, one after the other, each
by its effect. If the block fails, the table is the one that the store kept before it. It fails if
the store rejected a write of one of the calls, which is what every failed flush is, whatever the
body made of that. What is in the table after the block, the store keeps. A change that is given no
unit ends as a block with this change alone, and leaves the table as it was if it fails. -/
theorem joined_calls_are_kept_together (repository : Repository) (body : Body α) {hasFactory : Bool}
    {unit : UnitOfWork SessionId} (made : UnitOfWork.ofSources source hasFactory = .ok unit)
    (known : ∀ id ∈ source, id < workspace.sessions.length) :
    let id := sessionIn source workspace
    let start := opened source workspace
    let steps := body.steps repository (entered source workspace) start
    let inside := (body.run repository (entered source workspace)).run start
    let ended := (body.inBlock repository unit).run workspace
    ((∀ given ∈ source, workspace.Quiet given) → Saved id inside.2 → ∀ value,
      (ended.1 = .ok value ↔ inside.1 = .ok value ∧ ¬start.Rejected id ∧
        ∀ step ∈ steps, ¬step.after.Rejected id) ∧
      (ended.1 = .ok value → ended.2.table = inside.2.table ∧
        Linked workspace.table ended.2.table steps ∧
        ∀ step ∈ steps, step.Effect repository.model id)) ∧
    (∀ failure, ended.1 = .error failure → ended.2.table = keptBefore source workspace) ∧
    ((∃ step ∈ steps, step.after.Rejected id) → ∃ failure, ended.1 = .error failure) ∧
    (∀ stamped duringQuery before failure after, id < before.sessions.length →
      (flushWith repository.model id stamped duringQuery).run before = (.error failure, after) →
      after.Rejected id) ∧
    ended.2.storedTable id = ended.2.table ∧
    ∀ {Reply : Type} (call : Call Reply), call.isChange = true →
      let own := (call.perform repository none).run workspace
      let block := ((Body.only call).inBlock repository .selfManaged).run workspace
      own.1 = block.1 ∧ own.2.table = block.2.table ∧
        ∀ failure, own.1 = .error failure → own.2.table = workspace.table := by
  obtain rfl := ofSources_eq_ok made
  have accepted := accepted_inside_iff repository source workspace body
  intro id start steps inside ended
  refine ⟨fun quiet saved value => ?_, fun failure fails => ?_, ?_, ?_, ?_, ?_⟩
  · have moved := tentative_run (session_entered source workspace) repository body start
    have settled (sound : ¬inside.2.Rejected id) : Settled id inside.2 :=
      ⟨(moved.quiet (sessionIn_known known) (quiet_opened quiet)).resolve_left sound, saved⟩
    refine ⟨⟨fun succeeds => ?_, ?_⟩, fun succeeds => ?_⟩
    · exact (body_of_block_ok known succeeds).imp_right accepted.mp
    · rintro ⟨succeeds, sound⟩
      exact (block_ok succeeds (accepted.mpr sound) (settled (accepted.mpr sound))).1
    · obtain ⟨returned, sound⟩ := body_of_block_ok known succeeds
      have table : ended.2.table = inside.2.table := (block_ok returned sound (settled sound)).2
      rw [table]
      exact ⟨rfl, effects_of_block repository source workspace body known quiet⟩
  · exact table_block_error repository source workspace known fails
  · rintro ⟨step, listed, rejected⟩
    cases outcome : ended.1 with
    | error failure => exact ⟨failure, rfl⟩
    | ok value =>
        obtain ⟨_, sound⟩ := body_of_block_ok known outcome
        exact absurd rejected ((accepted.mp sound).2 step listed)
  · exact fun stamped duringQuery before failure after known ran => (rejected_of_flushWith known ran).1
  · exact storedTable_around (works_block repository body source workspace) (sessionIn_known known)
      (withheld_block repository body source workspace) (Prod.ext rfl rfl)
  · intro Reply call changes own block
    obtain ⟨same, table⟩ := own_is_block repository workspace call changes
    refine ⟨same, table, fun failure fails => ?_⟩
    exact table.trans (table_block_error repository none workspace known_own (same.symm.trans fails))

def nobody : Workspace where
  clock := default
  table := .empty

def addPerson (name address : String) (next : Body Unit) : Body Unit :=
  .make [("name", .text name), ("email", .text address)] fun made => match made with
    | .ok record => .call (.create record) fun _ => next
    | .error failure => .raise failure

def twoPeople (first second : String) : Body Unit :=
  addPerson "Ada" first (addPerson "Bob" second (.done ()))

def people : Repository := ⟨Samples.person, .standard⟩

/-- A refused call undoes its block although the body goes on, and two calls that succeed are kept. -/
theorem one_address_for_two_people_undoes_the_block :
    UnitOfWork.ofSources (none : Option SessionId) true = .ok .selfManaged ∧
    (∃ failure, (blockEnd people (twoPeople "home" "home") none nobody).1 = .error failure) ∧
    (blockEnd people (twoPeople "home" "home") none nobody).2.table = nobody.table ∧
    (blockEnd people (twoPeople "home" "work") none nobody).1 = .ok () ∧
    Linked nobody.table (blockEnd people (twoPeople "home" "work") none nobody).2.table
      ((twoPeople "home" "work").steps people (entered none nobody) (opened none nobody)) := by
  have made : UnitOfWork.ofSources (none : Option SessionId) true = .ok .selfManaged := rfl
  have known : ∀ id ∈ (none : Option SessionId), id < nobody.sessions.length := known_own
  have quiet : ∀ id ∈ (none : Option SessionId), nobody.Quiet id := by simp
  obtain ⟨_, restores, refuses, _⟩ :=
    joined_calls_are_kept_together people (twoPeople "home" "home") made known
  obtain ⟨keeps, _⟩ := joined_calls_are_kept_together people (twoPeople "home" "work") made known
  have refused : ∃ step ∈ (twoPeople "home" "home").steps people (entered none nobody)
      (opened none nobody), step.after.Rejected 0 := by
    decide +kernel
  obtain ⟨failure, failed⟩ := refuses refused
  have saved : Saved 0 (bodyEnd people (twoPeople "home" "work") none nobody).2 := by
    unfold Saved
    decide +kernel
  have succeeded : (blockEnd people (twoPeople "home" "work") none nobody).1 = .ok () := by
    have returns : (blockEnd people (twoPeople "home" "work") none nobody).1.toOption = some () := by
      decide +kernel
    cases ended : (blockEnd people (twoPeople "home" "work") none nobody).1 with
    | ok value => rfl
    | error failure =>
        rw [ended] at returns
        cases returns
  have kept := (keeps quiet saved ()).2 succeeded
  exact ⟨made, ⟨failure, failed⟩, restores failure failed, succeeded, kept.2.1⟩

end RecordStore
