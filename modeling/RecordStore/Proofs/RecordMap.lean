import RecordStore.Proofs.AllOrNothing
import RecordStore.Proofs.OwnEffects

/-!
A repository as a finite map. Whatever calls without a unit of work were made, and however they ended,
the table maps each identity to the attributes of the record that was last returned for it.
-/

namespace RecordStore

namespace Record

def number? (record : Record) : Option Int :=
  match record.get? Attribute.identity.name with
  | some (.integer number) => some number
  | _ => none

theorem number?_eq_some_iff {record : Record} {number : Int} :
    record.number? = some number ↔ record.get? Attribute.identity.name = some (.integer number) := by
  rw [number?]
  split
  · rename_i other held
    simp [held]
  · rename_i notNumber
    simpa using notNumber number

theorem number?_of_values {record : Record} {model : Model} {row : Row}
    (values : record.values = row.values model) : record.number? = some row.id := by
  rw [number?_eq_some_iff, get?, values, row.lookup_identity]

end Record

def Table.Puts (before after : Table) (row : Row) : Prop :=
  ∀ id, after.find? id = if id = row.id then some row else before.find? id

theorem Record.Adds.onMap {model : Model} {source : Record} {before last : Table} {row : Row}
    (adds : source.Adds model before last row) :
    before.find? row.id = none ∧ before.Puts last row := by
  obtain ⟨new, rfl⟩ := adds.puts
  exact ⟨new, fun id => Table.find?_put before row id⟩

/-- To clear the identity of a record that the store knows is a change, which no update accepts. -/
theorem Record.Orderly.clears {source : Record} (orderly : source.Orderly) (keyed : source.key ≠ none) :
    (source.set Attribute.identity.name .null).netChange? .identity = some (.identity, .null) := by
  have held := source.get?_set_self Attribute.identity.name .null
  have changed := source.lookup_changes_set_self Attribute.identity.name .null
  cases orderly.stands with
  | unknown keyless _ => exact absurd keyless keyed
  | loaded number _ own before =>
      have first : (source.changes.lookup Attribute.identity.name).getD
          (source.get? Attribute.identity.name) = some (.integer number) := by
        cases change : source.changes.lookup Attribute.identity.name with
        | none => exact own
        | some first => exact before first change
      exact Workspace.netChange?_of_cleared held (changed.trans (congrArg some first))
  | cleared number _ _ before =>
      rw [before, Option.getD_some] at changed
      exact Workspace.netChange?_of_cleared held changed
  | lost number _ missing unchanged _ =>
      rw [unchanged, missing] at changed
      simp [Record.netChange?, held, changed]

theorem Record.Orderly.cleared {source : Record} (orderly : source.Orderly) (keyed : source.key ≠ none)
    (unidentified : source.Unidentified) : source.netChange? .identity = some (.identity, .null) := by
  cases orderly.stands with
  | unknown keyless _ => exact absurd keyless keyed
  | loaded number _ own _ =>
      rcases unidentified with held | ⟨missing, _⟩
      · cases held.symm.trans own
      · cases missing.symm.trans own
  | cleared number _ held before => exact Workspace.netChange?_of_cleared held before
  | lost number _ missing _ expired =>
      rcases unidentified with held | ⟨_, fresh⟩
      · cases missing.symm.trans held
      · cases fresh.symm.trans expired

namespace Repository

open Workspace UnitOfWork

inductive Deed : Type 1
  | wait (clock : DateTime)
  | make (fields : List (String × Value))
  | assign (record : Handle) (name : String) (value : Value)
  | call {Reply : Type} (made : Call Reply)

def Call.step {Reply : Type} (repository : Repository) (call : Call Reply) (before : Workspace) : Step :=
  let ended := (call.perform repository none).run before
  ⟨call, before, ended.1, ended.2⟩

namespace Deed

def run (repository : Repository) (workspace : Workspace) : Deed → Workspace
  | .wait clock => { workspace with clock }
  | .make fields => ((makeRecord repository.model fields).run workspace).2
  | .assign record name value => ((setAttribute repository.model record name value).run workspace).2
  | .call made => (made.step repository workspace).after

/-- Whether a deed can be done: identities are numbers or null, and the identity of a record that the
store knows is not set to another number. -/
def Proper (workspace : Workspace) : Deed → Prop
  | .wait _ => True
  | .make fields => Plain fields
  | .assign record name value =>
    name = Attribute.identity.name → (workspace.record record).Admits value
  | .call made => made.Proper workspace

end Deed

abbrev Ledger := Int → Option (List (String × Value))

namespace Ledger

def ofTable (model : Model) (table : Table) : Ledger :=
  fun id => (table.find? id).map (Row.values model)

def enter (record : Record) (ledger : Ledger) : Ledger :=
  fun id => if record.number? = some id then some record.values else ledger id

def strike (record : Record) (ledger : Ledger) : Ledger :=
  fun id => if record.number? = some id then none else ledger id

/-- Enters the record that a call returned, and strikes out the one that it deleted. A failed call leaves
the map as it is. -/
def note (ledger : Ledger) : Step → Ledger
  | ⟨.create _, _, .ok record, after⟩ | ⟨.save _, _, .ok record, after⟩
  | ⟨.firstOrCreate _ _, _, .ok (record, _), after⟩ => ledger.enter (after.record record)
  | ⟨.delete record, before, .ok _, _⟩ => ledger.strike (before.record record)
  | _ => ledger

def afterDeed (repository : Repository) (workspace : Workspace) (ledger : Ledger) : Deed → Ledger
  | .call made => ledger.note (made.step repository workspace)
  | _ => ledger

end Ledger

inductive Run (repository : Repository) (start : Workspace) : Workspace → Ledger → Prop
  | start : Run repository start start (.ofTable repository.model start.table)
  | next {workspace : Workspace} {ledger : Ledger} (run : Run repository start workspace ledger)
      (deed : Deed) (proper : deed.Proper workspace) :
      Run repository start (deed.run repository workspace) (ledger.afterDeed repository workspace deed)

/-- What a call does to the table as a map. A record that is created is put under an identity that no row
had, one that is saved under its own; the rows of other identities stay. A deletion takes the row of
the record's identity, and nothing if the record has none. A failed call or a read changes nothing. -/
def Step.OnMap (model : Model) : Step → Prop
  | ⟨.create record, before, .ok created, after⟩ => created = record ∧ ∃ row,
      before.table.find? row.id = none ∧ before.table.Puts after.table row ∧
      (after.record created).values = row.values model
  | ⟨.save record, before, .ok saved, after⟩ => ∃ row,
      (before.record record).number? = some row.id ∧ before.table.Puts after.table row ∧
      (after.record saved).values = row.values model
  | ⟨.delete record, before, .ok _, after⟩ => ∀ id, after.table.find? id =
      if (before.record record).number? = some id then none else before.table.find? id
  | ⟨.firstOrCreate _ _, before, .ok (created, true), after⟩ => ∃ row,
      before.table.find? row.id = none ∧ before.table.Puts after.table row ∧
      (after.record created).values = row.values model
  | ⟨.firstOrCreate _ _, before, .ok (found, false), after⟩ => after.table = before.table ∧
      ∃ row ∈ before.table.rows, (after.record found).values = row.values model
  | ⟨_, before, _, after⟩ => after.table = before.table

section Steps

variable {repository : Repository} {workspace after : Workspace} {record : Handle}

theorem create_onMap {created : Handle} (orderly : workspace.Orderly)
    (ran : (repository.create record none).run workspace = (.ok created, after)) :
    (⟨.create record, workspace, .ok created, after⟩ : Step).OnMap repository.model := by
  obtain ⟨rfl, start, prepared, unidentified, creates⟩ := create_ok ran
  cases creates with
  | inserted row _ adds values =>
      obtain ⟨new, puts⟩ := adds.onMap
      exact ⟨rfl, row, new, puts, values⟩
  | known keyed unchanged _ _ =>
      -- A record that the store knows is refused, as its identity was cleared.
      have clears : (start.record created).netChange? .identity = some (.identity, .null) := by
        rcases prepared with rfl | rfl
        · exact (orderly created).cleared keyed unidentified
        · by_cases bound : created < workspace.records.length
          · rw [record_changeRecord_self bound] at keyed ⊢
            exact (orderly created).clears keyed
          · rw [record_changeRecord, if_neg fun found => bound found.2,
              record_of_le (Nat.not_lt.mp bound)] at keyed
            exact absurd rfl keyed
      rw [clears] at unchanged
      cases unchanged

theorem save_onMap {saved : Handle} (orderly : workspace.Orderly)
    (ran : (repository.save record none).run workspace = (.ok saved, after)) :
    (⟨.save record, workspace, .ok saved, after⟩ : Step).OnMap repository.model := by
  obtain ⟨identity, row, held, notNew, stored, _, values⟩ := save_ok ran
  have distinct := (orderly record).distinct
  obtain ⟨_, admits⟩ := mergeKey_admits (orderly record)
  obtain ⟨key, number, rfl⟩ := (admits identity (mem_of_lookup held)).resolve_left fun null => by
    rw [null] at notNew
    cases notNew
  have own := (Record.get?_copy_of_distinct distinct Attribute.identity.name).trans held
  obtain ⟨rfl, puts⟩ := stored.own own key.symm
  exact ⟨row, Record.number?_eq_some_iff.mpr held, puts, values row.id own key.symm⟩

theorem delete_onMap (orderly : workspace.Orderly)
    (ran : (repository.delete record none).run workspace = (.ok (), after)) :
    (⟨.delete record, workspace, .ok (), after⟩ : Step).OnMap repository.model := by
  obtain ⟨identity, reads, bindable, table⟩ := delete_ok ran
  intro id
  have kept := Table.find?_removeWhere workspace.table (fun row => (rowsOf identity).holds row) id
  rw [← table] at kept
  -- Without a number the identity is null, which no row has.
  have unset (unnumbered : (workspace.record record).number? = none) (null : identity = .null) :
      after.table.find? id = if (workspace.record record).number? = some id then none
        else workspace.table.find? id := by
    subst null
    rw [kept, unnumbered, if_neg (by simp)]
    cases workspace.table.find? id with
    | none => rfl
    | some row => simp [Option.filter, holds_rowsOf_null]
  rcases readIdentity_get? reads with held | ⟨missing, null, _⟩
  · obtain ⟨_, admits⟩ := mergeKey_admits (orderly record)
    rcases admits identity (mem_of_lookup held) with null | ⟨_, number, rfl⟩
    · refine unset ?_ null
      rw [Record.number?, held, null]
    · have fits := checkBindings_rowsOf_integer.mp bindable
      rw [kept, Record.number?_eq_some_iff.mpr held]
      cases found : workspace.table.find? id with
      | none => simp
      | some row =>
          obtain ⟨_, rfl⟩ := Table.find?_eq_some_iff.mp found
          by_cases same : row.id = number
          · simp [Option.filter, holds_rowsOf_integer fits, same]
          · simp [Option.filter, holds_rowsOf_integer fits, same, Ne.symm same]
  · refine unset ?_ null
    rw [Record.number?, missing]

theorem delete_succeeds (identified : (workspace.record record).Unidentified ∨
      ∃ number, (workspace.record record).number? = some number ∧ Cell.fits number = true) :
    ∃ after, (repository.delete record none).run workspace = (.ok (), after) := by
  rcases identified with (null | ⟨missing, fresh⟩) | ⟨number, numbered, fits⟩
  · exact run_delete (run_readIdentity null) (checkBindings_rowsOf_null _)
  · have blank : (readIdentity repository.model record).run workspace = (.ok .null, workspace) := by
      simp only [readIdentity, Action.run_bind, Action.run_get, missing, fresh]
      rfl
    exact run_delete blank (checkBindings_rowsOf_null _)
  · exact run_delete (run_readIdentity (Record.number?_eq_some_iff.mp numbered))
      (checkBindings_rowsOf_integer.mpr fits)

theorem firstOrCreate_onMap {criteria defaults : List (String × Value)} {isCreated : Bool}
    (ran : (repository.firstOrCreate criteria defaults none).run workspace =
      (.ok (record, isCreated), after)) :
    (⟨.firstOrCreate criteria defaults, workspace, .ok (record, isCreated), after⟩ : Step).OnMap
      repository.model := by
  have effect := firstOrCreate_ok ran
  cases isCreated with
  | true =>
      obtain ⟨row, inserts, values⟩ := effect
      have onMap := (Record.adds_of_inserts inserts).onMap
      exact ⟨row, onMap.1, onMap.2, values⟩
  | false => exact effect

theorem onMap_perform {Reply : Type} (repository : Repository) {call : Call Reply}
    (orderly : workspace.Orderly) (proper : call.Proper workspace) :
    (call.step repository workspace).OnMap repository.model := by
  rw [Call.step]
  cases ran : (call.perform repository none).run workspace with
  | mk outcome after =>
      cases outcome with
      | error failure =>
          have kept := table_of_error ran
          cases call <;> exact kept
      | ok reply =>
          have reads (still : call.isChange = false) : after.table = workspace.table := by
            have kept := unwritten_perform repository still workspace
            rwa [ran] at kept
          cases call with
          | create record => exact create_onMap orderly ran
          | save record => exact save_onMap orderly ran
          | delete record => exact delete_onMap orderly ran
          | firstOrCreate criteria defaults => exact firstOrCreate_onMap ran
          | findById identity => exact reads rfl
          | findAll catalogue request limit offset => exact reads rfl
          | findPage catalogue request page rows => exact reads rfl

end Steps

section Runs

variable {repository : Repository} {start workspace : Workspace} {ledger : Ledger}

theorem table_makeRecord (model : Model) (fields : List (String × Value)) (workspace : Workspace) :
    ((makeRecord model fields).run workspace).2.table = workspace.table := by
  have still : Still 0 workspace _ := still_makeRecord model fields workspace
  exact still.table

theorem table_setAttribute (model : Model) (record : Handle) (name : String) (value : Value)
    (workspace : Workspace) :
    ((setAttribute model record name value).run workspace).2.table = workspace.table := by
  have still : Still 0 workspace _ := still_setAttribute model record name value workspace
  exact still.table

theorem Deed.orderly_run {deed : Deed} (orderly : workspace.Orderly) (proper : deed.Proper workspace) :
    (deed.run repository workspace).Orderly := by
  cases deed with
  | wait clock => exact orderly
  | make fields =>
      cases ran : (makeRecord repository.model fields).run workspace with
      | mk outcome after =>
          rw [run, ran]
          cases outcome with
          | error failure =>
              obtain rfl := makeRecord_error ran
              exact orderly
          | ok made =>
              obtain ⟨_, rfl⟩ := makeRecord_ok ran
              intro other
              rw [record_withRecord]
              split
              · exact Plain.orderly proper
              · exact orderly other
  | assign record name value => exact orderly_setAttribute orderly proper
  | call made => exact orderly_perform repository orderly proper

theorem Ledger.enter_ofTable {model : Model} {before after : Table} {row : Row} {record : Record}
    (puts : before.Puts after row) (values : record.values = row.values model) :
    (ofTable model before).enter record = ofTable model after := by
  funext id
  rw [enter, Record.number?_of_values values, ofTable, ofTable, puts id]
  by_cases here : row.id = id
  · simp [here, values]
  · simp [here, Ne.symm here]

theorem Ledger.note_ofTable {model : Model} {step : Step} (onMap : step.OnMap model) :
    (ofTable model step.before.table).note step = ofTable model step.after.table := by
  obtain ⟨call, before, outcome, after⟩ := step
  have stays (same : after.table = before.table) :
      ofTable model before.table = ofTable model after.table := by
    rw [same]
  cases outcome with
  | error failure => cases call <;> exact stays onMap
  | ok reply =>
      cases call with
      | create record =>
          obtain ⟨_, row, _, puts, values⟩ := onMap
          exact enter_ofTable puts values
      | save record =>
          obtain ⟨row, _, puts, values⟩ := onMap
          exact enter_ofTable puts values
      | delete record =>
          funext id
          have gone := onMap id
          simp only [note, strike, ofTable, gone]
          split <;> rfl
      | firstOrCreate criteria defaults =>
          obtain ⟨record, isCreated⟩ := reply
          cases isCreated with
          | true =>
              obtain ⟨row, _, puts, values⟩ := onMap
              exact enter_ofTable puts values
          | false =>
              -- A record that was found is entered as the row that the map has for it.
              obtain ⟨same, row, listed, values⟩ := onMap
              refine enter_ofTable (fun id => ?_) values
              rw [same]
              split
              · rename_i here
                rw [here, Table.find?_of_mem listed]
              · rfl
      | findById identity => exact stays onMap
      | findAll catalogue request limit offset => exact stays onMap
      | findPage catalogue request page rows => exact stays onMap

theorem Ledger.afterDeed_ofTable {deed : Deed} (orderly : workspace.Orderly)
    (proper : deed.Proper workspace) :
    (ofTable repository.model workspace.table).afterDeed repository workspace deed =
      ofTable repository.model (deed.run repository workspace).table := by
  cases deed with
  | wait clock => rfl
  | make fields =>
      rw [Deed.run, table_makeRecord]
      rfl
  | assign record name value =>
      rw [Deed.run, table_setAttribute]
      rfl
  | call made => exact note_ofTable (onMap_perform repository orderly proper)

theorem Run.keeps (orderly : start.Orderly) (run : Run repository start workspace ledger) :
    workspace.Orderly ∧ ledger = .ofTable repository.model workspace.table := by
  -- The map follows the table only while records are orderly, so that the run carries both.
  induction run with
  | start => exact ⟨orderly, rfl⟩
  | next run deed proper ih =>
      obtain ⟨orderly, rfl⟩ := ih
      exact ⟨Deed.orderly_run orderly proper, Ledger.afterDeed_ofTable orderly proper⟩

/-- What a repository does at a point of a run, by the map that its calls have kept: each call does to the
table what it does to a map; a deletion succeeds unless the identity of its record cannot be told or is
beyond the range of the store; and an identity is found if and only if the map has it, by the attributes
that the map has for it. An identity beyond the range of the store is refused. -/
structure Follows (repository : Repository) (workspace : Workspace) (ledger : Ledger) : Prop where
  table : ledger = .ofTable repository.model workspace.table
  moves {Reply : Type} (call : Call Reply) (proper : call.Proper workspace) :
    (call.step repository workspace).OnMap repository.model
  deletes (record : Handle) (identified : (workspace.record record).Unidentified ∨
      ∃ number, (workspace.record record).number? = some number ∧ Cell.fits number = true) :
    ∃ after, (repository.delete record none).run workspace = (.ok (), after)
  finds (number : Int) (values : List (String × Value)) (fits : Cell.fits number = true)
    (listed : ledger number = some values) :
    ∃ record after, (repository.findById (.integer number) none).run workspace = (.ok record, after) ∧
      (after.record record).values = values
  misses (number : Int) (fits : Cell.fits number = true) :
    ((repository.findById (.integer number) none).run workspace).1 =
      .error (.recordNotFound repository.model.name (.integer number)) ↔ ledger number = none
  refuses (number : Int) (beyond : Cell.fits number = false) :
    ((repository.findById (.integer number) none).run workspace).1 = .error (.store .integerTooLarge)

/-- A repository behaves like a map from identities to records: at every point of a run, each call changes
one row at most, and `findById` gives what was last returned for an identity. -/
theorem repository_is_a_map_of_records (repository : Repository) (orderly : start.Orderly)
    (run : Run repository start workspace ledger) : repository.Follows workspace ledger := by
  obtain ⟨orderly, rfl⟩ := run.keeps orderly
  have answers (number : Int) := answers_findById repository workspace number
  simp only [Answers] at answers
  refine ⟨rfl, fun call proper => onMap_perform repository orderly proper,
    fun record => delete_succeeds, ?_, ?_, ?_⟩
  · intro number values fits listed
    have answer := answers number
    rw [if_pos fits] at answer
    rw [Ledger.ofTable] at listed
    cases found : workspace.table.find? number with
    | none =>
        rw [found] at listed
        cases listed
    | some row =>
        rw [found] at listed answer
        obtain rfl := Option.some.inj listed
        obtain ⟨record, gives, read⟩ := answer
        exact ⟨record, _, gives, read⟩
  · intro number fits
    have answer := answers number
    rw [if_pos fits] at answer
    rw [Ledger.ofTable]
    cases found : workspace.table.find? number with
    | none =>
        rw [found] at answer
        rw [answer]
        simp
    | some row =>
        rw [found] at answer
        obtain ⟨record, gives, _⟩ := answer
        rw [gives]
        simp
  · intro number beyond
    have answer := answers number
    rw [if_neg (by rw [beyond]; exact Bool.false_ne_true)] at answer
    rw [answer]

/-- Ada is made and created, and the repository then has her under the identity 1. -/
theorem ada_is_found_under_one :
    nobody.Orderly ∧ ∃ workspace ledger, Run people nobody workspace ledger ∧
      (ledger 1).isSome ∧ (ledger 2).isNone ∧ people.Follows workspace ledger := by
  have orderly : nobody.Orderly := fun _ => Plain.orderly
    ⟨List.nodup_nil, fun _ listed => absurd listed List.not_mem_nil⟩
  have plain : Plain [("name", .text "Ada")] := ⟨by simp [Distinct], by simp [Attribute.identity]⟩
  have begins : Run people nobody nobody _ := .start
  have made := begins.next (.make [("name", .text "Ada")]) plain
  have bound : 0 < ((Deed.make [("name", .text "Ada")]).run people nobody).records.length := by
    decide +kernel
  have run := made.next (.call (.create 0)) bound
  refine ⟨orderly, _, _, run, ?_, ?_, repository_is_a_map_of_records people orderly run⟩
  · decide +kernel
  · decide +kernel

/-- The store refuses an identity that it could not hold, before it looks for a row. -/
theorem identity_beyond_the_store_is_not_reported_missing :
    ∃ ledger, Run people nobody nobody ledger ∧ ledger (2 ^ 63) = none ∧
      ((people.findById (.integer (2 ^ 63)) none).run nobody).1 ≠
        .error (.recordNotFound people.model.name (.integer (2 ^ 63))) := by
  refine ⟨_, .start, rfl, ?_⟩
  have answer := answers_findById people nobody (2 ^ 63)
  rw [Answers, if_neg (by decide)] at answer
  rw [answer]
  simp

end Runs

end Repository
end RecordStore
