import RecordStore.Proofs.AllOrNothing
import RecordStore.Proofs.OwnEffects

/-!
What a save does to the rows of a table. It copies the attributes of a record onto the row that it finds by
the record's identity, whichever they are, and it inserts a row if it finds none.
-/

namespace RecordStore

namespace Workspace

section Cells

variable {model : Model} {attr : Attribute} {cells : List (Attribute × Cell)}

theorem attribute_eq_of_name {other : Attribute} (here : attr ∈ model.attributes)
    (there : other ∈ model.attributes) (same : attr.name = other.name) : attr = other :=
  List.inj_on_of_nodup_map model.names_nodup here there same

theorem attribute_eq_of_column {other : Attribute} (here : attr ∈ model.attributes)
    (there : other ∈ model.attributes) (same : attr.column = other.column) : attr = other :=
  List.inj_on_of_nodup_map model.columns_nodup here there same

theorem filterMap_sublist {attrs : List Attribute} {send : Attribute → Option (Attribute × Value)}
    (own : ∀ attr entry, send attr = some entry → entry.1 = attr) :
    ((attrs.filterMap send).map Prod.fst).Sublist attrs := by
  induction attrs with
  | nil => exact .slnil
  | cons first rest ih =>
      cases sends : send first with
      | none =>
          rw [List.filterMap_cons_none sends]
          exact ih.cons first
      | some entry =>
          rw [List.filterMap_cons_some sends, List.map_cons, own first entry sends]
          exact ih.cons_cons first

theorem sentChanges_sublist (model : Model) (stamped : Bool) (record : Record) :
    ((sentChanges model stamped record).map Prod.fst).Sublist model.attributes := by
  refine (List.filter_sublist.map Prod.fst).trans (filterMap_sublist fun attr entry changes => ?_)
  obtain ⟨_, _, own, _⟩ := Record.netChange?_eq_some changes
  exact own

theorem sublist_of_sentAs {sent : List (Attribute × Value)} (sends : SentAs sent cells)
    (known : (sent.map Prod.fst).Sublist model.attributes) :
    (cells.map Prod.fst).Sublist model.attributes := by
  have same : cells.map Prod.fst = sent.map Prod.fst := by
    clear known
    induction sends with
    | nil => rfl
    | cons first _ ih => simp [first.1, ih]
  rwa [same]

theorem distinct_storedCells (known : (cells.map Prod.fst).Sublist model.attributes) :
    Distinct (storedCells cells) := by
  have columns : (storedCells cells).map Prod.fst =
      ((cells.filter fun entry => !entry.1.isIdentity).map Prod.fst).map Attribute.column := by
    simp [storedCells]
  rw [Distinct, columns]
  exact model.columns_nodup.sublist (((List.filter_sublist.map Prod.fst).trans known).map _)

theorem lookup_storedCells (known : (cells.map Prod.fst).Sublist model.attributes)
    (listed : attr ∈ model.attributes) (ordinary : attr.isIdentity = false) :
    (storedCells cells).lookup attr.column =
      (cellOf? attr cells).map fun cell => cell.drawn attr.type.affinity := by
  have isKnown {entry : Attribute × Cell} (there : entry ∈ cells) : entry.1 ∈ model.attributes :=
    known.subset (List.mem_map_of_mem there)
  rw [cellOf?]
  cases found : cells.find? fun entry => entry.1.name == attr.name with
  | none =>
      rw [Option.map_none, Option.map_none, List.lookup_eq_none_iff]
      rintro _ stored
      obtain ⟨entry, kept, rfl⟩ := List.mem_map.mp stored
      have there := (List.mem_filter.mp kept).1
      have other := List.find?_eq_none.mp found entry there
      rw [bne_iff_ne]
      intro same
      rw [attribute_eq_of_column listed (isKnown there) same] at other
      exact other (beq_self_eq_true _)
  | some entry =>
      have there := List.mem_of_find?_eq_some found
      have same : entry.1 = attr :=
        attribute_eq_of_name (isKnown there) listed (by simpa using List.find?_some found)
      refine lookup_of_mem (distinct_storedCells known) (List.mem_map.mpr ⟨entry, ?_, ?_⟩)
      · exact List.mem_filter.mpr ⟨there, by rw [same, ordinary]; rfl⟩
      · rw [same]

end Cells

end Workspace

section Updates

open Workspace

variable {model : Model} {attr : Attribute} {before after : Table} {old row : Row}
  {cells : List (Attribute × Cell)} {moment : List (String × Cell)} {record : Record}

theorem Table.cell_of_update (present : old ∈ before.rows)
    (known : (cells.map Prod.fst).Sublist model.attributes)
    (onlyMoment : ∀ entry ∈ moment, entry.1 = Attribute.updated.column)
    (accepted : before.update model old (cellOf? .identity cells) (storedCells cells ++ moment) =
      .ok (row, after)) (listed : attr ∈ model.attributes) (apart : attr.name ≠ Attribute.updated.name) :
    row.cell attr =
      ((cellOf? attr cells).map fun cell => cell.drawn attr.type.affinity).getD (old.cell attr) := by
  obtain ⟨identified, stored, _⟩ := Table.update_ok present accepted
  -- The identity of a row stands apart from its cells, and an update sends it apart from them.
  cases own : attr.isIdentity with
  | true =>
      obtain rfl : attr = .identity :=
        attribute_eq_of_name listed model.identity_mem (by simpa [Attribute.isIdentity] using own)
      have cell (row : Row) : row.cell .identity = .integer row.id := rfl
      rw [cell, cell]
      cases given : cellOf? .identity cells with
      | none =>
          rw [given] at identified
          exact congrArg Cell.integer identified
      | some sent =>
          rw [given] at identified
          exact (drawn_of_identityOf identified).symm
  | false =>
      have ordinary : attr.column ≠ Attribute.identity.column := fun same => by
        rw [attribute_eq_of_column listed model.identity_mem same] at own
        cases own
      have unstamped : (assignAll [] moment).lookup attr.column = none := by
        rw [List.lookup_eq_none_iff]
        intro entry listedMoment
        have stamped := onlyMoment entry ((mem_assignAll listedMoment).resolve_left List.not_mem_nil)
        rw [bne_iff_ne, stamped]
        exact fun same => apart (congrArg Attribute.name
          (attribute_eq_of_column listed model.updated_mem same))
      have assigned : assignAll old.cells (storedCells cells ++ moment) =
          assignAll (assignAll old.cells (storedCells cells)) moment := List.foldl_append
      simp only [Row.cell, if_neg ordinary]
      rw [stored, assigned, lookup_assignAll, unstamped, Option.none_or, lookup_assignAll,
        lookup_assignAll_nil _ (distinct_storedCells known), lookup_storedCells known listed own]
      cases cellOf? attr cells <;> rfl

/-- Whether a row has for an attribute what a record holds for it, if that is not the value of the old row,
and is as the old row otherwise. -/
def Record.Overwrites (record : Record) (attr : Attribute) (old row : Row) : Prop :=
  match record.get? attr.name with
  | some value =>
    if value.same (old.value attr) then row.cell attr = old.cell attr
    else ∃ cell, attr.Binds value cell ∧ row.cell attr = cell.drawn attr.type.affinity
  | none => row.cell attr = old.cell attr

theorem Record.overwrites_of_update (present : old ∈ before.rows)
    (sends : SentAs (sentChanges model true ((Record.ofRow model old).setAll record.values)) cells)
    (onlyMoment : ∀ entry ∈ moment, entry.1 = Attribute.updated.column)
    (accepted : before.update model old (cellOf? .identity cells) (storedCells cells ++ moment) =
      .ok (row, after)) (listed : attr ∈ model.attributes) (apart : attr.name ≠ Attribute.updated.name) :
    record.copy.Overwrites attr old row := by
  have known := sublist_of_sentAs sends (sentChanges_sublist model true _)
  have cell := Table.cell_of_update present known onlyMoment accepted listed apart
  have sent := cellOf?_of_sentAs sends attr
  rw [find?_sentChanges true _ listed apart, netChange?_setAll listed] at sent
  rw [Overwrites]
  cases held : record.copy.get? attr.name with
  | none =>
      rw [held] at sent
      rwa [sent] at cell
  | some value =>
      rw [held] at sent
      by_cases same : value.same (old.value attr)
      · simp only [same, if_true] at sent ⊢
        rwa [sent] at cell
      · simp only [same] at sent ⊢
        obtain ⟨bound, given, binds⟩ := sent
        rw [given] at cell
        exact ⟨bound, binds, cell⟩

end Updates

section Saves

open Workspace

variable {model : Model} {record : Record} {before after : Table} {row : Row}

def Record.Identifies (record : Record) (id : Int) : Prop :=
  ∃ value cell, record.get? Attribute.identity.name = some value ∧
    Attribute.identity.Binds value cell ∧ Table.identityOf cell = .ok id

theorem Record.Adds.identifies (adds : record.Adds model before after row) {value : Value}
    (sent : record.sentIdentity? = some value) : record.Identifies row.id := by
  obtain ⟨given, cells, gives, inserted⟩ := adds
  obtain ⟨identified, _⟩ := Table.insert_ok inserted
  rw [Gives, sent] at gives
  obtain ⟨cell, rfl, binds⟩ := gives
  have held : record.get? Attribute.identity.name = some value := by
    rw [sentIdentity?] at sent
    split at sent
    · cases sent
    · exact sent
  exact ⟨value, cell, held, binds, identified⟩

/-- How a save that succeeds changes a table. If the store finds a row for the record, the number of rows
stays; if it finds none, it puts one under the identity that the record holds. -/
def SavesRow (source : Record) (before after : Table) : Prop :=
  ∃ key, Cell.bind 1 (mergeKey source) = .ok key ∧
    (∀ old, before.locate? key = some old → after.rows.length = before.rows.length) ∧
    (before.locate? key = none → ∃ row, before.find? row.id = none ∧ after = before.put row ∧
      (Distinct source.values → source.Identifies row.id))

theorem Record.StoredAs.savesRow {value : Value} (stored : record.StoredAs model before after row)
    (held : record.get? Attribute.identity.name = some value) (notNull : value ≠ .null) :
    SavesRow record before after := by
  cases stored with
  | updated key old sent moment binds located sends onlyMoment accepted =>
      refine ⟨key, binds, fun _ _ => ?_, fun missing => ?_⟩
      · exact (Table.update_ok (List.mem_of_find?_eq_some located) accepted).2.2.2.2
      · rw [located] at missing
        cases missing
  | inserted key binds unlocated adds =>
      refine ⟨key, binds, fun old located => ?_, fun _ => ?_⟩
      · rw [unlocated] at located
        cases located
      · obtain ⟨new, put⟩ := adds.puts
        refine ⟨row, new, put, fun distinct => ?_⟩
        have same := get?_copy_of_distinct distinct Attribute.identity.name
        have sent : record.copy.sentIdentity? = some value := by
          rw [sentIdentity?, same, held]
          split
          · rename_i null
            exact absurd (Option.some.inj null) notNull
          · rfl
        obtain ⟨other, cell, given, identifies⟩ := adds.identifies sent
        exact ⟨other, cell, same.symm.trans given, identifies⟩

/-- How a save changes a row: the row stays, or the store found it for the record. Then its identity and its
moment of creation are what the record holds for them if that differs from the row, and they stay
otherwise. -/
def SavesOver (source : Record) (before after : Table) (old : Row) : Prop :=
  old ∈ after.rows ∨
    (∃ key, Cell.bind 1 (mergeKey source) = .ok key ∧ before.locate? key = some old) ∧
    ∃ row ∈ after.rows, source.copy.Overwrites .identity old row ∧
      source.copy.Overwrites .created old row

theorem Record.StoredAs.savesOver {old : Row} (stored : record.StoredAs model before after row)
    (present : old ∈ before.rows) : SavesOver record before after old := by
  have found := Table.find?_of_mem present
  cases stored with
  | inserted key binds unlocated adds =>
      obtain ⟨new, rfl⟩ := adds.puts
      have apart : old.id ≠ row.id := Table.find?_eq_none_iff.mp new old present
      have stays := Table.find?_put before row old.id
      rw [if_neg apart, found] at stays
      exact .inl (Table.find?_eq_some_iff.mp stays).1
  | updated key located sent moment binds locates sends onlyMoment accepted =>
      have listed := List.mem_of_find?_eq_some locates
      obtain ⟨_, _, new, rows, _⟩ := Table.update_ok listed accepted
      by_cases same : old = located
      · subst same
        have overwrites {attr : Attribute} (known : attr ∈ model.attributes)
            (apart : attr.name ≠ Attribute.updated.name) : record.copy.Overwrites attr old row :=
          overwrites_of_update listed sends onlyMoment accepted known apart
        have placed : after.find? row.id = some row := (rows row.id).trans (if_pos rfl)
        exact .inr ⟨⟨key, binds, locates⟩, row, (Table.find?_eq_some_iff.mp placed).1,
          overwrites model.identity_mem (by decide), overwrites model.created_mem (by decide)⟩
      · -- Another row was found: neither its identity nor its new one is that of the old row.
        have apart : old.id ≠ located.id := fun shared => same (Table.row_unique present listed shared)
        have other : old.id ≠ row.id := by
          rcases new with kept | new
          · rwa [kept]
          · exact Table.find?_eq_none_iff.mp new old present
        have stays := rows old.id
        rw [if_neg other, if_neg apart, found] at stays
        exact .inl (Table.find?_eq_some_iff.mp stays).1

end Saves

namespace Repository

open Workspace

variable {workspace : Workspace} {record : Handle}

/-- A save does not ask for a row. One that fails leaves the table as it was; one that succeeds updates the
row that it finds, and inserts a row if it finds none. -/
theorem save_inserts_what_it_does_not_find (repository : Repository) {outcome : Except Failure Handle}
    {after : Workspace} (ran : (repository.save record none).run workspace = (outcome, after)) :
    (∀ failure, outcome = .error failure → after.table = workspace.table) ∧
      ∀ saved, outcome = .ok saved → SavesRow (workspace.record record) workspace.table after.table := by
  constructor
  · rintro failure rfl
    have made : ((Call.save record).perform repository none).run workspace = _ := ran
    exact table_of_error made
  · rintro saved rfl
    obtain ⟨identity, row, held, notNew, stored, _⟩ := save_ok ran
    refine stored.savesRow held ?_
    rintro rfl
    cases notNew

def haunted : Workspace :=
  ((makeRecord people.model [("id", .integer 7), ("name", .text "Ghost")]).run nobody).2

theorem ghost_is_put_under_seven :
    ∃ after, (people.save 0 none).run haunted = (.ok 1, after) ∧
      SavesRow (haunted.record 0) haunted.table after.table := by
  have returns : ((people.save 0 none).run haunted).1.toOption = some 1 := by
    decide +kernel
  have ran : (people.save 0 none).run haunted = (.ok 1, ((people.save 0 none).run haunted).2) :=
    Prod.ext (eq_ok_of_toOption returns) rfl
  obtain ⟨_, saves⟩ := save_inserts_what_it_does_not_find people ran
  exact ⟨_, ran, saves 1 rfl⟩

/-- No row had the identity of Ghost, whose save succeeds nevertheless and adds a row. -/
theorem ghost_is_saved_without_a_row :
    haunted.table.rows = [] ∧ (haunted.record 0).Identifies 7 ∧
      ((people.save 0 none).run haunted).1.toOption.isSome ∧
      ((people.save 0 none).run haunted).2.table.rows.map Row.id = [7] := by
  refine ⟨by decide +kernel, ⟨.integer 7, .integer 7, by rfl, ⟨.integer 7, rfl, rfl⟩, rfl⟩, ?_, ?_⟩
  · decide +kernel
  · decide +kernel

/-- A save changes the identity or the moment of creation of a row only if the store found the row for the
record, and the record holds another value than the row. Then it does change them. -/
theorem save_overwrites_what_differs (repository : Repository) (record : Handle) {old : Row}
    (present : old ∈ workspace.table.rows) :
    SavesOver (workspace.record record) workspace.table
      ((repository.save record none).run workspace).2.table old := by
  cases ran : (repository.save record none).run workspace with
  | mk outcome after =>
      cases outcome with
      | error failure =>
          have made : ((Call.save record).perform repository none).run workspace = _ := ran
          exact .inl (table_of_error made ▸ present)
      | ok saved =>
          obtain ⟨_, row, _, _, stored, _⟩ := save_ok ran
          exact stored.savesOver present

def backdated : Workspace :=
  ((do
    let ada ← makeRecord people.model [("name", .text "Ada")]
    let _ ← people.create ada none
    setAttribute people.model ada Attribute.created.name (.moment ⟨1990, 1, 1, 0, 0, 0, 0⟩) :
      Action Workspace Unit).run nobody).2

theorem ada_is_saved_as_she_is :
    ∃ old ∈ backdated.table.rows, SavesOver (backdated.record 0) backdated.table
      ((people.save 0 none).run backdated).2.table old := by
  have there : (backdated.table.find? 1).isSome := by
    decide +kernel
  obtain ⟨old, found⟩ := Option.isSome_iff_exists.mp there
  have present := (Table.find?_eq_some_iff.mp found).1
  exact ⟨old, present, save_overwrites_what_differs people 0 present⟩

/-- A save moves the creation of a row that stands in the table to another moment. -/
theorem ada_is_backdated_by_save :
    ((people.save 0 none).run backdated).1.toOption.isSome ∧
      (backdated.table.find? 1).map (fun row => row.cell .created) =
        some (.text "0000-00-00 00:00:00") ∧
      (((people.save 0 none).run backdated).2.table.find? 1).map (fun row => row.cell .created) =
        some (.text "1990-01-01 00:00:00.000000") := by
  refine ⟨?_, ?_, ?_⟩
  · decide +kernel
  · decide +kernel
  · decide +kernel

end Repository
end RecordStore
