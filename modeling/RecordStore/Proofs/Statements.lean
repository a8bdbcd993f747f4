import Mathlib.Logic.Relation
import RecordStore.Proofs.SteadySteps

/-!
Statements that change a table. Writing records sends the store one statement after the other, each of
which it accepts, or else the writing fails.
-/

namespace RecordStore

inductive Table.Accepts (model : Model) (before : Table) : Table → Prop
  | insert {after : Table} {row : Row} (given : Option Cell) (cells : List (String × Cell))
      (accepted : before.insert model given cells = .ok (row, after)) : Accepts model before after
  | update {after : Table} {row old : Row} (given : Option Cell) (cells : List (String × Cell))
      (present : old ∈ before.rows)
      (accepted : before.update model old given cells = .ok (row, after)) :
      Accepts model before after
  | delete (holds : Row → Bool) : Accepts model before (before.removeWhere holds)

abbrev Table.AcceptsAll (model : Model) : Table → Table → Prop :=
  Relation.ReflTransGen (Table.Accepts model)

/-- Whether the store accepts a statement that saves a record: an update of one row that sets the
moment of change, or an insert of a row. -/
inductive Table.Saves (model : Model) (before : Table) : Table → Prop
  | update {after : Table} {row old : Row} (given : Option Cell) (cells : List (String × Cell))
      (moment : Cell) (present : old ∈ before.rows)
      (stamps : (Attribute.updated.column, moment) ∈ cells)
      (accepted : before.update model old given cells = .ok (row, after)) : Saves model before after
  | insert {after : Table} {row : Row} (given : Option Cell) (cells : List (String × Cell))
      (accepted : before.insert model given cells = .ok (row, after)) : Saves model before after

namespace Workspace

variable {model : Model} {stamped : Bool} {handle : Handle} {before after : Workspace}

theorem accepts_insertRecord (ran : before.insertRecord model stamped handle = .ok after) :
    ∃ given cells row, before.table.insert model given cells = .ok (row, after.table) := by
  simp only [insertRecord, bind_eq_ok_iff] at ran
  obtain ⟨bound, _, ⟨row, table⟩, accepted, inserted⟩ := ran
  obtain rfl := Except.ok.inj inserted
  exact ⟨_, _, row, accepted⟩

theorem table_reloadExpired (ran : before.reloadExpired model handle = .ok after) :
    after.table = before.table := by
  simp only [reloadExpired] at ran
  split at ran
  · obtain ⟨cell, _, located⟩ := bind_eq_ok_iff.mp ran
    split at located
    · obtain rfl := Except.ok.inj located
      rfl
    · cases located
  · obtain rfl := Except.ok.inj ran
    rfl

theorem accepts_updateRecord (ran : before.updateRecord model stamped handle = .ok after) :
    Table.AcceptsAll model before.table after.table := by
  simp only [updateRecord, bind_eq_ok_iff] at ran
  obtain ⟨reloaded, reloads, ran⟩ := ran
  rw [← table_reloadExpired reloads]
  split at ran
  · obtain rfl := Except.ok.inj ran
    exact .refl
  · obtain ⟨bound, _, ran⟩ := bind_eq_ok_iff.mp ran
    split at ran
    · cases ran
    · rename_i row located
      obtain ⟨⟨changed, table⟩, accepted, updated⟩ := bind_eq_ok_iff.mp ran
      obtain rfl := Except.ok.inj updated
      have update := Table.Accepts.update _ _ (List.mem_of_find?_eq_some located) accepted
      split
      · exact .single update
      · exact .single update

theorem accepts_writeRecords {stamped : Option Handle} {changed pending : List Handle}
    (ran : before.writeRecords model stamped changed pending = .ok after) :
    Table.AcceptsAll model before.table after.table := by
  obtain ⟨middle, updates, inserts⟩ := bind_eq_ok_iff.mp ran
  let edits (first second : Workspace) : Prop := Table.AcceptsAll model first.table second.table
  have refl (first : Workspace) : edits first first := .refl
  have trans {first second third : Workspace} (left : edits first second)
      (right : edits second third) : edits first third := .trans left right
  have updated : edits before middle :=
    foldlM_relates refl trans (fun _ _ _ => accepts_updateRecord) updates
  have inserted : edits middle after := by
    refine foldlM_relates refl trans (fun workspace handle last ran => ?_) inserts
    obtain ⟨given, cells, row, accepted⟩ := accepts_insertRecord ran
    exact .single (.insert given cells accepted)
  exact trans updated inserted

theorem saves_updateRecord (ran : before.updateRecord model true handle = .ok after) :
    Table.Saves model before.table after.table := by
  simp only [updateRecord, bind_eq_ok_iff] at ran
  obtain ⟨reloaded, reloads, ran⟩ := ran
  rw [← table_reloadExpired reloads]
  -- A stamped record does not send its moment, so that the statement sets it.
  have unset : (((reloaded.record handle).netChanges model).filter fun entry =>
      !(true && entry.1.name == Attribute.updated.name)).any
        (fun entry => entry.1.name == Attribute.updated.name) = false := by
    refine List.any_eq_false.mpr fun entry listed => ?_
    simpa using (List.mem_filter.mp listed).2
  split at ran
  · rename_i stamps
    simp at stamps
  · obtain ⟨bound, _, ran⟩ := bind_eq_ok_iff.mp ran
    split at ran
    · cases ran
    · rename_i row located
      simp only [unset, Bool.false_eq_true, if_false] at ran
      obtain ⟨⟨changed, table⟩, accepted, updated⟩ := bind_eq_ok_iff.mp ran
      obtain rfl := Except.ok.inj updated
      exact .update _ _ reloaded.clockCell (List.mem_of_find?_eq_some located)
        (List.mem_append_right _ List.mem_cons_self) accepted

theorem saves_foldlM {step : Workspace → Handle → Except StoreFailure Workspace}
    {handles : List Handle} (steps : ∀ start, ∀ handle ∈ handles, ∀ last,
      step start handle = .ok last → Table.Saves model start.table last.table)
    (ran : handles.foldlM step before = .ok after) :
    (handles = [] ∧ after = before) ∨
      Relation.TransGen (Table.Saves model) before.table after.table := by
  induction handles generalizing before with
  | nil =>
      cases ran
      exact .inl ⟨rfl, rfl⟩
  | cons handle handles ih =>
      rw [List.foldlM_cons] at ran
      obtain ⟨middle, first, rest⟩ := bind_eq_ok_iff.mp ran
      have saved := steps before handle List.mem_cons_self middle first
      refine .inr ?_
      rcases ih (fun start other listed => steps start other (List.mem_cons_of_mem _ listed)) rest with
        ⟨_, rfl⟩ | later
      · exact .single saved
      · exact .head saved later

theorem saves_writeRecords {record : Handle} {changed pending : List Handle}
    (only : ∀ other ∈ changed, other = record) (written : changed ≠ [] ∨ pending ≠ [])
    (ran : before.writeRecords model (some record) changed pending = .ok after) :
    Relation.TransGen (Table.Saves model) before.table after.table := by
  obtain ⟨middle, updates, inserts⟩ := bind_eq_ok_iff.mp ran
  have updated := saves_foldlM (fun start other listed last ran => by
    rw [only other listed, beq_self_eq_true] at ran
    exact saves_updateRecord ran) updates
  have inserted := saves_foldlM (fun start other listed last ran => by
    obtain ⟨given, cells, row, accepted⟩ := accepts_insertRecord ran
    exact .insert given cells accepted) inserts
  rcases updated with ⟨noChanged, rfl⟩ | updated
  · rcases inserted with ⟨noPending, _⟩ | inserted
    · rcases written with written | written
      · exact absurd noChanged written
      · exact absurd noPending written
    · exact inserted
  · rcases inserted with ⟨_, rfl⟩ | inserted
    · exact updated
    · exact updated.trans inserted

end Workspace
end RecordStore
