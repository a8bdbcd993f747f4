import RecordStore.Proofs.RecordMap
import RecordStore.Proofs.RowChanges

/-!
Identities that the store picks are positive as long as the ones that callers give are. Then no row looks
new: zero marks a record that has no row yet.
-/

namespace RecordStore

def Table.Positive (table : Table) : Prop := ∀ row ∈ table.rows, 0 < row.id

def Record.GivesPositive (record : Record) : Prop := ∀ id, record.Identifies id → 0 < id

theorem Record.givesPositive_of_integer {record : Record} {number : Int}
    (held : record.get? Attribute.identity.name = some (.integer number)) (positive : 0 < number) :
    record.GivesPositive := by
  rintro id ⟨value, cell, given, binds, identified⟩
  obtain rfl := Option.some.inj (held.symm.trans given)
  obtain ⟨rfl, _⟩ := Attribute.identity_binds_integer binds
  obtain rfl : number = id := Except.ok.inj identified
  exact positive

section Tables

open Workspace

variable {model : Model} {record : Record} {before after : Table} {row : Row}

theorem Table.Positive.of_find? (old : Row) (positive : before.Positive) (placed : 0 < row.id)
    (rows : ∀ id, after.find? id =
      if id = row.id then some row else if id = old.id then none else before.find? id) :
    after.Positive := by
  intro other listed
  have found := rows other.id
  rw [find?_of_mem listed] at found
  split at found
  · obtain rfl := Option.some.inj found
    exact placed
  · split at found
    · cases found
    · exact positive other (find?_eq_some_iff.mp found.symm).1

theorem Table.Positive.put (positive : before.Positive) (placed : 0 < row.id) :
    (before.put row).Positive := by
  intro other listed
  rcases Row.mem_putInto listed with rfl | there
  · exact placed
  · exact positive other there

theorem Table.Positive.removeWhere (positive : before.Positive) (holds : Row → Bool) :
    (before.removeWhere holds).Positive :=
  fun other listed => positive other (List.mem_filter.mp listed).1

theorem Record.Adds.positive (adds : record.Adds model before after row) (positive : before.Positive)
    (gives : ∀ value, record.sentIdentity? = some value → record.GivesPositive) : after.Positive := by
  have placed : 0 < row.id := by
    cases sent : record.sentIdentity? with
    | some value => exact gives value sent row.id (adds.identifies sent)
    | none =>
        obtain ⟨given, cells, unset, inserted⟩ := adds
        rw [Gives, sent] at unset
        subst unset
        obtain ⟨identified, _⟩ := Table.insert_ok inserted
        have next : row.id = before.nextId := identified
        rw [next]
        exact Table.nextId_pos positive
  obtain ⟨_, rfl⟩ := adds.puts
  exact positive.put placed

theorem Record.StoredAs.positive (stored : record.StoredAs model before after row)
    (positive : before.Positive) (gives : record.copy.GivesPositive) : after.Positive := by
  cases stored with
  | inserted key binds unlocated adds => exact adds.positive positive fun _ _ => gives
  | updated key old sent moment binds located sends onlyMoment accepted =>
      have listed := List.mem_of_find?_eq_some located
      obtain ⟨_, _, _, rows, _⟩ := Table.update_ok listed accepted
      refine positive.of_find? old ?_ rows
      have overwrites : record.copy.Overwrites .identity old row :=
        overwrites_of_update listed sends onlyMoment accepted model.identity_mem (by decide)
      have kept (same : row.cell .identity = old.cell .identity) : 0 < row.id := by
        have own : row.id = old.id := Cell.integer.inj same
        exact own ▸ positive old listed
      -- The identity of the changed row is the one that the record holds, or that of the old row.
      rw [Overwrites] at overwrites
      split at overwrites
      · rename_i value held
        split at overwrites
        · exact kept overwrites
        · obtain ⟨cell, binds, drawn⟩ := overwrites
          have numeric : cell.drawn .numeric = .integer row.id := drawn.symm
          have identified : Table.identityOf cell = .ok row.id := by
            rw [Table.identityOf, numeric]
          exact gives row.id ⟨value, cell, held, binds, identified⟩
      · exact kept overwrites

end Tables

namespace Repository

open Workspace

variable {repository : Repository} {start workspace after : Workspace} {record : Handle}

/-- Whether a call gives the store no identity that is not positive: a save is refused if the record looks
new, and `firstOrCreate` takes any identity. -/
def Call.GivesPositive {Reply : Type} (workspace : Workspace) : Call Reply → Prop
  | .save record =>
      isNewIdentity ((workspace.record record).get? Attribute.identity.name) = false →
        (workspace.record record).copy.GivesPositive
  | .firstOrCreate criteria defaults =>
      ({ values := assignAll defaults criteria } : Record).GivesPositive
  | _ => True

theorem create_positive {created : Handle} (positive : workspace.table.Positive)
    (ran : (repository.create record none).run workspace = (.ok created, after)) :
    after.table.Positive ∧ HoldsRow repository.model created after := by
  obtain ⟨rfl, start, _, unidentified, creates⟩ := create_ok ran
  cases creates with
  | inserted row _ adds values =>
      refine ⟨adds.positive positive fun value sent => ?_, row, adds.mem, values⟩
      rw [unidentified.sentIdentity?] at sent
      cases sent
  | known _ _ effect holds =>
      refine ⟨?_, holds⟩
      rcases effect with same | ⟨old, row, listed, own, rows⟩
      · exact same ▸ positive
      · refine positive.of_find? old (own ▸ positive old listed) fun id => ?_
        rw [rows, own]
        by_cases here : id = old.id
        · simp [here]
        · simp [here]

theorem firstOrCreate_positive {criteria defaults : List (String × Value)} {isCreated : Bool}
    (positive : workspace.table.Positive)
    (gives : ({ values := assignAll defaults criteria } : Record).GivesPositive)
    (ran : (repository.firstOrCreate criteria defaults none).run workspace =
      (.ok (record, isCreated), after)) :
    after.table.Positive ∧ HoldsRow repository.model record after := by
  have effect := firstOrCreate_ok ran
  cases isCreated with
  | true =>
      obtain ⟨row, inserts, values⟩ := effect
      have adds := Record.adds_of_inserts inserts
      exact ⟨adds.positive positive fun _ _ => gives, row, adds.mem, values⟩
  | false =>
      obtain ⟨same, holds⟩ := effect
      rw [← same] at holds
      exact ⟨same ▸ positive, holds⟩

theorem positive_perform {Reply : Type} (repository : Repository) {call : Call Reply}
    (positive : workspace.table.Positive) (gives : call.GivesPositive workspace) :
    ((call.perform repository none).run workspace).2.table.Positive := by
  cases ran : (call.perform repository none).run workspace with
  | mk outcome after =>
      cases outcome with
      | error failure =>
          rw [table_of_error ran]
          exact positive
      | ok reply =>
          have reads (still : call.isChange = false) : after.table.Positive := by
            have kept := unwritten_perform repository still workspace
            rw [ran] at kept
            exact kept ▸ positive
          cases call with
          | create record => exact (create_positive positive ran).1
          | save record =>
              obtain ⟨identity, row, held, notNew, stored, _⟩ := save_ok ran
              exact stored.positive positive (gives (held ▸ notNew))
          | delete record =>
              obtain ⟨identity, _, _, table⟩ := delete_ok ran
              rw [table]
              exact positive.removeWhere _
          | firstOrCreate criteria defaults =>
              obtain ⟨record, isCreated⟩ := reply
              exact (firstOrCreate_positive positive gives ran).1
          | findById identity => exact reads rfl
          | findAll catalogue request limit offset => exact reads rfl
          | findPage catalogue request page rows => exact reads rfl

def Deed.GivesPositive (workspace : Workspace) : Deed → Prop
  | .call made => made.GivesPositive workspace
  | _ => True

inductive Grows (repository : Repository) (start : Workspace) : Workspace → Prop
  | start : Grows repository start start
  | next {workspace : Workspace} (grows : Grows repository start workspace) (deed : Deed)
      (gives : deed.GivesPositive workspace) : Grows repository start (deed.run repository workspace)

theorem Deed.positive_run {deed : Deed} (positive : workspace.table.Positive)
    (gives : deed.GivesPositive workspace) : (deed.run repository workspace).table.Positive := by
  cases deed with
  | wait clock => exact positive
  | make fields =>
      rw [run, table_makeRecord]
      exact positive
  | assign record name value =>
      rw [run, table_setAttribute]
      exact positive
  | call made => exact positive_perform repository positive gives

theorem Grows.positive (empty : start.table.rows = []) (grows : Grows repository start workspace) :
    workspace.table.Positive := by
  induction grows with
  | start =>
      intro row listed
      rw [empty] at listed
      cases listed
  | next grows deed gives ih => exact Deed.positive_run ih gives

/-- Whether a record passes for stored: it is not new, a save goes on to write it, and a create refuses it. -/
structure PassesStored (repository : Repository) (record : Handle) (workspace : Workspace) : Prop where
  notNew : isNew (.record repository.model.name (workspace.record record).values) = false
  saves : (repository.save record none).run workspace = (do
    let saved ← repository.changing none (repository.saveIn record)
    repository.debugRecord "Saved" saved
    pure saved : Action Workspace Handle).run workspace
  refuses : (repository.create record none).run workspace =
    (.error (.notNew (.record repository.model.name (workspace.record record).values)), workspace)

theorem isNew_record (name : String) (record : Record) :
    isNew (.record name record.values) = isNewIdentity (record.get? Attribute.identity.name) := by
  have named : record.get? Attribute.identity.name = record.values.lookup "id" := rfl
  rw [isNew, Value.attribute?, named]
  cases record.values.lookup "id" with
  | none => rfl
  | some identity => rfl

theorem passesStored_of_notNew
    (notNew : isNew (.record repository.model.name (workspace.record record).values) = false) :
    repository.PassesStored record workspace := by
  have looksStored := notNew
  rw [isNew_record] at looksStored
  cases held : (workspace.record record).get? Attribute.identity.name with
  | none =>
      rw [held] at looksStored
      cases looksStored
  | some identity =>
      rw [held] at looksStored
      have reads : (readIdentity repository.model record).run workspace = (.ok identity, workspace) :=
        run_readIdentity held
      refine ⟨notNew, ?_, ?_⟩
      · rw [save, Action.run_bind_ok reads, looksStored]
        rfl
      · rw [create, Action.run_bind_ok reads, looksStored]
        rfl

theorem passesStored_of_holdsRow (positive : workspace.table.Positive)
    (holds : HoldsRow repository.model record workspace) : repository.PassesStored record workspace := by
  obtain ⟨row, listed, values⟩ := holds
  have held : (workspace.record record).get? Attribute.identity.name = some (.integer row.id) := by
    rw [Record.get?, values, row.lookup_identity]
  have notNew : isNewIdentity (some (.integer row.id)) = false := by
    have apart : row.id ≠ 0 := Int.ne_of_gt (positive row listed)
    rw [← Bool.not_eq_true, isNewIdentity_iff]
    rintro (null | zero)
    · cases null
    · exact apart ((same_integer_iff row.id 0).mp zero)
  refine passesStored_of_notNew ?_
  rw [isNew_record, held]
  exact notNew

/-- In every run from an empty table that gives the store positive identities only, no row looks new: the
records that `create` and `firstOrCreate` return pass for stored. -/
theorem returned_records_pass_for_stored (repository : Repository) (empty : start.table.rows = [])
    (grows : Grows repository start workspace) :
    workspace.table.Positive ∧
      (∀ record created after,
        (repository.create record none).run workspace = (.ok created, after) →
        repository.PassesStored created after) ∧
      ∀ criteria defaults record isCreated after,
        ({ values := assignAll defaults criteria } : Record).GivesPositive →
        (repository.firstOrCreate criteria defaults none).run workspace =
          (.ok (record, isCreated), after) →
        repository.PassesStored record after := by
  have positive := grows.positive empty
  refine ⟨positive, ?_, ?_⟩
  · intro record created after ran
    obtain ⟨kept, holds⟩ := create_positive positive ran
    exact passesStored_of_holdsRow kept holds
  · intro criteria defaults record isCreated after gives ran
    obtain ⟨kept, holds⟩ := firstOrCreate_positive positive gives ran
    exact passesStored_of_holdsRow kept holds

def withBob : Workspace :=
  (Deed.call (.create 0)).run people ((Deed.make [("name", .text "Bob")]).run people nobody)

theorem ada_passes_for_stored :
    nobody.table.rows = [] ∧ Grows people nobody withBob ∧ withBob.table.rows.map Row.id = [1] ∧
      ({ values := assignAll [("id", .integer 5)] [("name", .text "Ada")] } : Record).GivesPositive ∧
      ∃ after, (people.firstOrCreate [("name", .text "Ada")] [("id", .integer 5)] none).run withBob =
        (.ok (1, true), after) ∧ people.PassesStored 1 after := by
  have grows : Grows people nobody withBob :=
    (Grows.start.next (.make [("name", .text "Bob")]) trivial).next (.call (.create 0)) trivial
  have chosen : (0 : Int) < 5 := by decide
  have gives : ({ values := assignAll [("id", .integer 5)] [("name", .text "Ada")] } :
      Record).GivesPositive := Record.givesPositive_of_integer rfl chosen
  have returns : ((people.firstOrCreate [("name", .text "Ada")] [("id", .integer 5)] none).run
      withBob).1.toOption = some (1, true) := by
    decide +kernel
  have ran : (people.firstOrCreate [("name", .text "Ada")] [("id", .integer 5)] none).run withBob =
      (.ok (1, true), _) := Prod.ext (eq_ok_of_toOption returns) rfl
  obtain ⟨_, _, passes⟩ := returned_records_pass_for_stored people rfl grows
  exact ⟨rfl, grows, by decide +kernel, gives, _, ran, passes _ _ _ _ _ gives ran⟩

/-- A default sets the identity of a record that `firstOrCreate` inserts, and the record looks new after
it. -/
theorem zero_is_inserted_by_first_or_create :
    ((people.firstOrCreate [("name", .text "Zero")] [("id", .integer 0)] none).run nobody).1.toOption =
        some (0, true) ∧
      ((people.firstOrCreate [("name", .text "Zero")] [("id", .integer 0)] none).run
        nobody).2.table.rows.map Row.id = [0] ∧
      isNewIdentity ((((people.firstOrCreate [("name", .text "Zero")] [("id", .integer 0)] none).run
        nobody).2.record 0).get? Attribute.identity.name) = true := by
  refine ⟨?_, ?_, ?_⟩
  · decide +kernel
  · decide +kernel
  · decide +kernel

end Repository
end RecordStore
