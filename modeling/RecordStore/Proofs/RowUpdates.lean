import RecordStore.Proofs.RowChanges

/-!
The update of one row by the record of it. Each cell takes the value that the record changed, or stays; a
stamped update sets the moment of change to the clock, whatever the record holds for it.
-/

namespace RecordStore

def Value.Alike : Value → Value → Prop := Relation.ReflTransGen fun left right => left.same right = true

/-- Whether a row has a value for an attribute: it reads as the value, or its cell is what the column stores
of the value, or that holds of a value that is the same. -/
def Row.Has (row : Row) (attr : Attribute) (value : Value) : Prop :=
  ∃ other, value.Alike other ∧
    (row.value attr = other ∨ ∃ cell, attr.Binds other cell ∧ row.cell attr = cell.drawn attr.type.affinity)

namespace Row

variable {left right row : Row} {attr : Attribute} {value other : Value}

theorem value_of_cell (same : left.cell attr = right.cell attr) : left.value attr = right.value attr := by
  rw [value, same, value]

theorem has_value (row : Row) (attr : Attribute) : row.Has attr (row.value attr) :=
  ⟨_, .refl, .inl rfl⟩

theorem has_of_stored {cell : Cell} (binds : attr.Binds value cell)
    (stored : row.cell attr = cell.drawn attr.type.affinity) : row.Has attr value :=
  ⟨value, .refl, .inr ⟨cell, binds, stored⟩⟩

theorem Has.of_same (has : row.Has attr other) (same : value.same other = true) : row.Has attr value := by
  obtain ⟨last, alike, has⟩ := has
  exact ⟨last, .head same alike, has⟩

theorem Has.of_cell (has : left.Has attr value) (same : right.cell attr = left.cell attr) :
    right.Has attr value := by
  rw [Has, same, value_of_cell same]
  exact has

end Row

namespace Record

variable {record : Record} {model : Model} {attr : Attribute} {old row : Row} {value : Value}

def known? (record : Record) (name : String) : Option Value :=
  match record.changes.lookup name with
  | some before => before
  | none => record.get? name

/-- Whether a row has what a record knows of it, but for the moment of change, which the store sets. -/
def Reads (model : Model) (record : Record) (row : Row) : Prop :=
  ∀ attr ∈ model.attributes, attr.name ≠ Attribute.updated.name →
    ∀ value, record.known? attr.name = some value → row.Has attr value

def Rewrites (record : Record) (attr : Attribute) (old row : Row) : Prop :=
  match record.netChange? attr with
  | some entry => ∃ cell, attr.Binds entry.2 cell ∧ row.cell attr = cell.drawn attr.type.affinity
  | none => row.cell attr = old.cell attr

theorem known?_of_unchanged (unchanged : record.changes = []) (name : String) :
    record.known? name = record.get? name := by
  rw [known?, unchanged]
  rfl

theorem netChange?_of_unchanged (unchanged : record.changes = []) (attr : Attribute) :
    record.netChange? attr = none := by
  rw [netChange?, unchanged]
  rfl

theorem Rewrites.has (rewrites : record.Rewrites attr old row) (reads : record.Reads model old)
    (listed : attr ∈ model.attributes) (apart : attr.name ≠ Attribute.updated.name)
    (held : record.get? attr.name = some value) : row.Has attr value := by
  have knows := reads attr listed apart
  rw [Rewrites, netChange?, held] at rewrites
  rw [known?, held] at knows
  cases changed : record.changes.lookup attr.name with
  | none =>
      rw [changed] at rewrites knows
      exact (knows value rfl).of_cell rewrites
  | some before =>
      rw [changed] at rewrites knows
      dsimp only at rewrites
      split at rewrites
      · rename_i entry differs
        split at differs
        · cases differs
        · obtain rfl := Option.some.inj differs
          obtain ⟨cell, binds, stored⟩ := rewrites
          exact Row.has_of_stored binds stored
      · rename_i same
        split at same
        · rename_i alike
          cases before with
          | none => cases alike
          | some first => exact ((knows first rfl).of_cell rewrites).of_same alike
        · cases same

theorem Rewrites.stays (rewrites : record.Rewrites attr old row)
    (unchanged : record.netChange? attr = none) : row.cell attr = old.cell attr := by
  rwa [Rewrites, unchanged] at rewrites

end Record

namespace Workspace

variable {model : Model} {before after : Workspace} {handle : Handle} {old row : Row} {number : Int}

section Tables

variable {record : Record} {table last : Table} {cells : List (Attribute × Cell)}
  {moment : List (String × Cell)} {stamped : Bool}

theorem rewrites_of_update (present : old ∈ table.rows)
    (sends : SentAs (sentChanges model stamped record) cells)
    (onlyMoment : ∀ entry ∈ moment, entry.1 = Attribute.updated.column)
    (accepted : table.update model old (cellOf? .identity cells) (storedCells cells ++ moment) =
      .ok (row, last)) {attr : Attribute} (listed : attr ∈ model.attributes)
    (apart : attr.name ≠ Attribute.updated.name) : record.Rewrites attr old row := by
  have known := sublist_of_sentAs sends (sentChanges_sublist model stamped record)
  have cell := Table.cell_of_update present known onlyMoment accepted listed apart
  have sent := cellOf?_of_sentAs sends attr
  rw [find?_sentChanges stamped record listed apart] at sent
  rw [Record.Rewrites]
  cases change : record.netChange? attr with
  | none =>
      rw [change] at sent
      rwa [sent] at cell
  | some entry =>
      rw [change] at sent
      obtain ⟨_, _, own, _⟩ := Record.netChange?_eq_some change
      obtain ⟨bound, given, binds⟩ := sent
      rw [given] at cell
      exact ⟨bound, own ▸ binds, cell⟩

theorem find?_of_update (found : table.find? number = some old)
    (held : record.get? Attribute.identity.name = some (.integer number))
    (sends : SentAs (sentChanges model stamped record) cells)
    (accepted : table.update model old (cellOf? .identity cells) (storedCells cells ++ moment) =
      .ok (row, last)) : row.id = number ∧ last.find? number = some row := by
  obtain ⟨present, rfl⟩ := Table.find?_eq_some_iff.mp found
  obtain ⟨identified, _, _, rows, _⟩ := Table.update_ok present accepted
  have same : row.id = old.id := by
    have sent := cellOf?_of_sentAs sends .identity
    rw [find?_sentChanges stamped record model.identity_mem (by decide)] at sent
    cases change : record.netChange? .identity with
    | none =>
        rw [change] at sent
        rw [sent] at identified
        exact identified
    | some entry =>
        rw [change] at sent
        obtain ⟨cell, given, binds⟩ := sent
        obtain ⟨_, _, own, holds, _⟩ := Record.netChange?_eq_some change
        rw [own, Option.some.inj (holds.symm.trans held)] at binds
        obtain ⟨rfl, _⟩ := Attribute.identity_binds_integer binds
        rw [given] at identified
        exact (Except.ok.inj identified).symm
  refine ⟨same, ?_⟩
  rw [rows, if_pos same.symm]

theorem cell_updated_of_update {clock : Cell} (present : old ∈ table.rows)
    (accepted : table.update model old (cellOf? .identity cells)
      (storedCells cells ++ [(Attribute.updated.column, clock)]) = .ok (row, last)) :
    row.cell .updated = clock := by
  obtain ⟨_, stored, _⟩ := Table.update_ok present accepted
  have assigned : row.cells =
      assign Attribute.updated.column clock (assignAll old.cells (storedCells cells)) := by
    rw [stored]
    exact List.foldl_append
  rw [Row.cell, if_neg (by decide), assigned, lookup_assign_self, Option.getD_some]

end Tables

theorem updateRecord_stamped (fresh : (before.record handle).expired = false)
    (ran : before.updateRecord model true handle = .ok after) : ∃ place old cells row,
      Attribute.identity.Binds (before.record handle).rowIdentity place ∧
      before.table.locate? place = some old ∧
      SentAs (sentChanges model true (before.record handle)) cells ∧
      before.table.update model old (cellOf? .identity cells)
        (storedCells cells ++ [(Attribute.updated.column, before.clockCell)]) = .ok (row, after.table) ∧
      after = ({ before with table := after.table } : Workspace).changeRecord handle fun record =>
        { record with values := unassign Attribute.updated.name record.values } := by
  simp only [updateRecord, reloadExpired, fresh, Bool.false_eq_true, if_false, Bool.not_true, Bool.and_false,
    Bool.true_and, ok_bind] at ran
  obtain ⟨bound, binds, ran⟩ := bind_eq_ok_iff.mp ran
  have sends := sentAs_of_bindAll binds
  have located := binds_last (binds_of_bindAll binds) .null
  split at ran
  · cases ran
  · rename_i old found
    obtain ⟨⟨row, table⟩, accepted, updated⟩ := bind_eq_ok_iff.mp ran
    have unset : ((before.record handle).netChanges model |>.filter fun entry =>
        !entry.1.name == Attribute.updated.name).any
          (fun entry => entry.1.name == Attribute.updated.name) = false := by
      simp
    rw [unset] at accepted updated
    obtain rfl := Except.ok.inj updated
    exact ⟨_, old, _, row, located, found, sends, accepted, rfl⟩

theorem updateRecord_row {stamped : Bool} (fresh : (before.record handle).expired = false)
    (held : (before.record handle).get? Attribute.identity.name = some (.integer number))
    (own : (before.record handle).rowIdentity = .integer number)
    (found : before.table.find? number = some old)
    (ran : before.updateRecord model stamped handle = .ok after) :
    ∃ row, row.id = number ∧ after.table.find? number = some row ∧
      (∀ attr ∈ model.attributes, attr.name ≠ Attribute.updated.name →
        (before.record handle).Rewrites attr old row) ∧
      (stamped = true → row.cell .updated = before.clockCell) := by
  have locates {place : Cell} {located : Row}
      (binds : Attribute.identity.Binds (before.record handle).rowIdentity place)
      (locates : before.table.locate? place = some located) : located = old := by
    rw [own] at binds
    obtain ⟨rfl, _⟩ := Attribute.identity_binds_integer binds
    rw [Table.locate?_integer, found] at locates
    exact (Option.some.inj locates).symm
  have present := (Table.find?_eq_some_iff.mp found).1
  cases stamped with
  | true =>
      obtain ⟨place, located, cells, row, binds, there, sends, accepted, _⟩ := updateRecord_stamped fresh ran
      obtain rfl := locates binds there
      obtain ⟨same, placed⟩ := find?_of_update found held sends accepted
      refine ⟨row, same, placed, fun attr listed apart => ?_,
        fun _ => cell_updated_of_update present accepted⟩
      refine rewrites_of_update present sends (fun entry among => ?_) accepted listed apart
      exact congrArg Prod.fst (List.mem_singleton.mp among)
  | false =>
      obtain ⟨reloaded, reloads, wrote⟩ := updateRecord_ok ran
      simp only [reloadExpired, fresh, Bool.false_eq_true, if_false] at reloads
      obtain rfl := Except.ok.inj reloads
      rcases wrote with ⟨unwritten, _, nothing⟩ |
        ⟨table, ⟨place, located, cells, moment, row, binds, there, sends, onlyMoment, accepted⟩, wrote⟩
      · refine ⟨old, (Table.find?_eq_some_iff.mp found).2, unwritten ▸ found, fun attr listed apart => ?_,
          fun stamps => absurd stamps Bool.false_ne_true⟩
        have unchanged := find?_sentChanges false (before.record handle) listed apart
        rw [nothing] at unchanged
        rw [Record.Rewrites, ← unchanged]
        rfl
      · obtain rfl := locates binds there
        obtain ⟨same, placed⟩ := find?_of_update found held sends accepted
        have last : after.table = table := by
          rcases wrote with rfl | rfl <;> rfl
        exact ⟨row, same, last ▸ placed, fun attr listed apart =>
          rewrites_of_update present sends onlyMoment accepted listed apart,
          fun stamps => absurd stamps Bool.false_ne_true⟩

end Workspace

end RecordStore
