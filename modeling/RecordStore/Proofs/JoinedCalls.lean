import RecordStore.Proofs.SavedRecords
import RecordStore.Proofs.UnitBlocks

/-!
Calls that join one unit of work. The body of a block makes calls one after the other, decides by what
it sees how to go on, and may catch the failures of its calls.
-/

namespace RecordStore
namespace Repository

open Workspace

inductive Call : Type → Type where
  | create (record : Handle) : Call Handle
  | save (record : Handle) : Call Handle
  | delete (record : Handle) : Call Unit
  | firstOrCreate (criteria defaults : List (String × Value)) : Call (Handle × Bool)
  | findById (identity : Value) : Call Handle
  | findAll (catalogue : Catalogue) (request : Request) (limit offset : Int) : Call (List Handle)
  | findPage (catalogue : Catalogue) (request : Request) (page rows : Int) :
      Call (PagedResult (List Handle))

namespace Call

variable {Reply : Type}

def perform (repository : Repository) (scope : Scope) : Call Reply → Action Workspace Reply
  | .create record => repository.create record scope
  | .save record => repository.save record scope
  | .delete record => repository.delete record scope
  | .firstOrCreate criteria defaults => repository.firstOrCreate criteria defaults scope
  | .findById identity => repository.findById identity scope
  | .findAll catalogue request limit offset => repository.findAll catalogue request limit offset scope
  | .findPage catalogue request page rows => repository.findPage catalogue request page rows scope

def isChange : Call Reply → Bool
  | .create _ | .save _ | .delete _ | .firstOrCreate _ _ => true
  | .findById _ | .findAll .. | .findPage .. => false

end Call

structure Step where
  {Reply : Type}
  call : Call Reply
  before : Workspace
  outcome : Except Failure Reply
  after : Workspace

/-- The body of a block. It can look at all records, make new ones and set their attributes. -/
inductive Body (α : Type) : Type 1 where
  | done (value : α)
  | raise (failure : Failure)
  | look (next : Workspace → Body α)
  | make (fields : List (String × Value)) (next : Except Failure Handle → Body α)
  | assign (record : Handle) (name : String) (value : Value) (next : Except Failure Unit → Body α)
  | call {Reply : Type} (call : Call Reply) (next : Except Failure Reply → Body α)

/-- What a call did to the table, by its outcome. Unless the store rejected a write, the table became
what it is by statements that the store accepted. If nothing was left unsaved before the call, a read
changed nothing, a deletion took the rows of the record's identity, a save updated a row with its
moment of change or inserted one, and a record that was created, unknown to the store before, was
one inserted row. A record that was created or saved holds its row. -/
def Step.Effect (model : Model) (id : SessionId) (step : Step) : Prop :=
  (step.after.Rejected id ∨ Table.AcceptsAll model step.before.table step.after.table) ∧
  match step with
  | ⟨.create record, before, .ok _, after⟩ =>
    Settled id before → (before.record record).key = none →
      record ∉ (before.session id).attached →
      Inserts model before.table after.table ∧ HoldsRow model record after
  | ⟨.save _, before, .ok saved, after⟩ =>
    HoldsRow model saved after ∧
      (Settled id before → Relation.TransGen (Table.Saves model) before.table after.table)
  | ⟨.delete record, before, .ok _, after⟩ =>
    Settled id before → ∃ identity, (readIdentity model record).run before = (.ok identity, before) ∧
      after.table = before.table.removeWhere fun row => (rowsOf identity).holds row
  | ⟨.firstOrCreate _ _, before, .ok (record, isCreated), after⟩ =>
    Settled id before → if isCreated then
        Inserts model before.table after.table ∧ HoldsRow model record after
      else after.table = before.table
  | ⟨.findById _, before, _, after⟩ | ⟨.findAll .., before, _, after⟩
  | ⟨.findPage .., before, _, after⟩ =>
    Settled id before → after.table = before.table
  | _ => True

namespace Body

variable {α : Type}

def run (repository : Repository) (unit : UnitOfWork SessionId) : Body α → Action Workspace α
  | .done value => pure value
  | .raise failure => .fail failure
  | .look next => do (next (← Action.get)).run repository unit
  | .make fields next => do
    (next (← (makeRecord repository.model fields).attempt)).run repository unit
  | .assign record name value next => do
    (next (← (setAttribute repository.model record name value).attempt)).run repository unit
  | .call made next => do
    (next (← (made.perform repository (some unit)).attempt)).run repository unit

def steps (repository : Repository) (unit : UnitOfWork SessionId) : Body α → Workspace → List Step
  | .done _, _ => []
  | .raise _, _ => []
  | .look next, workspace => (next workspace).steps repository unit workspace
  | .make fields next, workspace =>
    let made := (makeRecord repository.model fields).run workspace
    (next made.1).steps repository unit made.2
  | .assign record name value next, workspace =>
    let assigned := (setAttribute repository.model record name value).run workspace
    (next assigned.1).steps repository unit assigned.2
  | .call made next, workspace =>
    let ended := (made.perform repository (some unit)).run workspace
    ⟨made, workspace, ended.1, ended.2⟩ :: (next ended.1).steps repository unit ended.2

def inBlock (repository : Repository) (unit : UnitOfWork SessionId) (body : Body α) :
    Action Workspace α :=
  UnitOfWork.inside unit (UnitOfWork.around (Workspace.ops repository.model) (do
    UnitOfWork.outside (body.run repository (← UnitOfWork.self))))

def only {Reply : Type} (made : Call Reply) : Body Reply :=
  .call made fun outcome => match outcome with
    | .ok value => .done value
    | .error failure => .raise failure

theorem run_only {Reply : Type} (repository : Repository) (unit : UnitOfWork SessionId)
    (made : Call Reply) (workspace : Workspace) :
    ((only made).run repository unit).run workspace =
      (made.perform repository (some unit)).run workspace := by
  rw [only, run, Action.run_bind, Action.run_attempt]
  cases (made.perform repository (some unit)).run workspace with
  | mk outcome after => cases outcome <;> rfl

end Body

def Linked (first last : Table) : List Step → Prop
  | [] => last = first
  | step :: rest => step.before.table = first ∧ Linked step.after.table last rest

variable {α Reply : Type} {repository : Repository} {unit : UnitOfWork SessionId} {id : SessionId}

theorem linked_steps (body : Body α) (workspace : Workspace) :
    Linked workspace.table ((body.run repository unit).run workspace).2.table
      (body.steps repository unit workspace) := by
  induction body generalizing workspace with
  | done value => rfl
  | raise failure => rfl
  | look next ih => exact ih workspace workspace
  | make fields next ih =>
      have linked := ih ((makeRecord repository.model fields).run workspace).1
        ((makeRecord repository.model fields).run workspace).2
      have same : Still 0 workspace _ := still_makeRecord repository.model fields workspace
      rw [same.table] at linked
      exact linked
  | assign record name value next ih =>
      have linked := ih ((setAttribute repository.model record name value).run workspace).1
        ((setAttribute repository.model record name value).run workspace).2
      have same : Still 0 workspace _ := still_setAttribute repository.model record name value workspace
      rw [same.table] at linked
      exact linked
  | call made next ih => exact ⟨rfl, ih _ _⟩

section Held

variable (held : unit.session = some id)

include held

theorem ReadsMove.moves_perform {relation : Workspace → Workspace → Prop}
    [IsPreorder Workspace relation] (reads : ReadsMove repository id relation) {call : Call Reply}
    (still : call.isChange = false) : Action.Moves relation (call.perform repository (some unit)) := by
  cases call with
  | create | save | delete | firstOrCreate => cases still
  | findById identity => exact reads.moves_findById held identity
  | findAll catalogue request limit offset =>
      exact reads.moves_findAll held catalogue request limit offset
  | findPage catalogue request page rows => exact reads.moves_findPage held catalogue request page rows

theorem StepsMove.moves_perform {relation : Workspace → Workspace → Prop}
    [IsPreorder Workspace relation] (steps : StepsMove repository id relation) (call : Call Reply) :
    Action.Moves relation (call.perform repository (some unit)) := by
  cases call with
  | create record => exact steps.moves_create held record
  | save record => exact steps.moves_save held record
  | delete record => exact steps.moves_delete held record
  | firstOrCreate criteria defaults => exact steps.moves_firstOrCreate held criteria defaults
  | findById | findAll | findPage => exact steps.toReadsMove.moves_perform held rfl

theorem StepsMove.moves_run {relation : Workspace → Workspace → Prop}
    [IsPreorder Workspace relation] (steps : StepsMove repository id relation) (body : Body α) :
    Action.Moves relation (body.run repository unit) := by
  induction body with
  | done value => exact Action.moves_pure value
  | raise failure => exact Action.moves_fail failure
  | look next ih => exact Action.moves_get ih
  | make fields next ih => exact Action.moves_bind (Action.moves_attempt (steps.makes fields)) ih
  | assign record name value next ih =>
      exact Action.moves_bind (Action.moves_attempt (steps.assigns record name value)) ih
  | call made next ih =>
      -- The call is attempted, so that the rest of the body is reached after a failure too.
      exact Action.moves_bind (Action.moves_attempt (steps.moves_perform held made)) ih

theorem tentative_run (repository : Repository) (body : Body α) :
    Action.Moves (Tentative repository.model id) (body.run repository unit) :=
  (tentative_steps repository id).moves_run held body

theorem StepsMove.moves_around {relation : Workspace → Workspace → Prop}
    [IsPreorder Workspace relation] (steps : StepsMove repository id relation) {body : Body α}
    {workspace : Workspace} {step : Step} (listed : step ∈ body.steps repository unit workspace) :
    relation workspace step.before ∧
      (step.call.perform repository (some unit)).run step.before = (step.outcome, step.after) ∧
      relation step.after ((body.run repository unit).run workspace).2 := by
  induction body generalizing workspace with
  | done value => exact (List.not_mem_nil listed).elim
  | raise failure => exact (List.not_mem_nil listed).elim
  | look next ih => exact ih workspace listed
  | make fields next ih =>
      obtain ⟨start, ran, rest⟩ := ih _ listed
      exact ⟨trans_of relation (steps.makes fields workspace) start, ran, rest⟩
  | assign record name value next ih =>
      obtain ⟨start, ran, rest⟩ := ih _ listed
      exact ⟨trans_of relation (steps.assigns record name value workspace) start, ran, rest⟩
  | call made next ih =>
      rcases List.mem_cons.mp listed with rfl | later
      · exact ⟨refl_of relation workspace, rfl, steps.moves_run held (next _) _⟩
      · obtain ⟨start, ran, rest⟩ := ih _ later
        exact ⟨trans_of relation (steps.moves_perform held made workspace) start, ran, rest⟩

theorem effect_of_run {step : Step} (known : id < step.before.sessions.length)
    (quiet : step.before.Quiet id)
    (ran : (step.call.perform repository (some unit)).run step.before = (step.outcome, step.after)) :
    step.Effect repository.model id := by
  have moved := (tentative_steps repository id).moves_perform held step.call step.before
  rw [ran] at moved
  have reading (reads : step.call.isChange = false) (settled : Settled id step.before) :
      step.after.table = step.before.table := by
    have untouched := (untouched_reads repository id).moves_perform held reads step.before known settled
    rw [ran] at untouched
    exact untouched.2.2
  refine ⟨moved.accepted, ?_⟩
  obtain ⟨call, before, outcome, after⟩ := step
  cases call with
  | create record =>
      cases outcome with
      | error failure => trivial
      | ok created =>
          exact fun settled keyless apart => create_inserts held known settled keyless apart ran
  | save record =>
      cases outcome with
      | error failure => trivial
      | ok saved => exact save_saves held known quiet ran
  | delete record =>
      cases outcome with
      | error failure => trivial
      | ok _ => exact fun settled => delete_removes held known settled ran
  | firstOrCreate criteria defaults =>
      cases outcome with
      | error failure => trivial
      | ok result => exact fun settled => firstOrCreate_inserts held known settled ran
  | findById identity => exact reading rfl
  | findAll catalogue request limit offset => exact reading rfl
  | findPage catalogue request page rows => exact reading rfl

theorem ran_of_mem_steps {body : Body α} {workspace : Workspace}
    (known : id < workspace.sessions.length) (quiet : workspace.Quiet id) {step : Step}
    (listed : step ∈ body.steps repository unit workspace) :
    id < step.before.sessions.length ∧ step.before.Quiet id ∧
      (step.call.perform repository (some unit)).run step.before = (step.outcome, step.after) := by
  obtain ⟨start, ran, _⟩ := (tentative_steps repository id).moves_around held listed
  exact ⟨Nat.lt_of_lt_of_le known start.sessions, start.quiet known quiet, ran⟩

theorem rejected_of_mem_steps {body : Body α} {workspace : Workspace} {step : Step}
    (listed : step ∈ body.steps repository unit workspace) (rejected : step.after.Rejected id) :
    ((body.run repository unit).run workspace).2.Rejected id := by
  obtain ⟨_, _, rest⟩ := (tentative_steps repository id).moves_around held listed
  exact rest.rejected rejected

omit held in
/-- A session is only given up for a write that the store rejected before, or in one of the calls. -/
theorem rejected_of_run {body : Body α} {workspace : Workspace}
    (rejected : ((body.run repository unit).run workspace).2.Rejected id) :
    workspace.Rejected id ∨ ∃ step ∈ body.steps repository unit workspace, step.after.Rejected id := by
  induction body generalizing workspace with
  | done value => exact .inl rejected
  | raise failure => exact .inl rejected
  | look next ih => exact ih workspace rejected
  | make fields next ih =>
      have made : Still id workspace _ := still_makeRecord repository.model fields workspace
      exact (ih _ rejected).imp_left made.rejected_iff.mp
  | assign record name value next ih =>
      have assigned : Still id workspace _ :=
        still_setAttribute repository.model record name value workspace
      exact (ih _ rejected).imp_left assigned.rejected_iff.mp
  | call made next ih =>
      rcases ih _ rejected with here | ⟨step, listed, later⟩
      · exact .inr ⟨_, List.mem_cons_self, here⟩
      · exact .inr ⟨step, List.mem_cons_of_mem _ listed, later⟩

end Held

end Repository
end RecordStore
