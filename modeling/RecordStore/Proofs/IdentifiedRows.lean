import Mathlib.Data.List.Find
import Mathlib.Data.List.Nodup
import RecordStore.Proofs.ExactNumbers
import RecordStore.Proofs.Outcome
import RecordStore.Store.Table

/-!
A table as a map from identities to rows: at most one row has an identity, an insert puts a row under
an identity that no row had, and an update changes the row of one identity.
-/

namespace RecordStore

theorem Row.find?_putInto (row : Row) (rows : List Row) (id : Int) :
    (row.putInto rows).find? (fun other => other.id == id) =
      if id = row.id then some row else rows.find? fun other => other.id == id := by
  induction rows with
  | nil =>
      by_cases here : id = row.id
      · simp [putInto, here]
      · simp [putInto, here, Ne.symm here]
  | cons first rest ih =>
      simp only [putInto]
      split
      · by_cases here : id = row.id
        · simp [here]
        · simp [here, Ne.symm here]
      · rename_i notBelow
        split
        · rename_i same
          by_cases here : id = row.id
          · simp [here]
          · simp [here, Ne.symm here, ← same]
        · rename_i different
          by_cases there : id = first.id
          · have apart : ¬id = row.id := by omega
            simp [there, Ne.symm different]
          · simp [Ne.symm there, ih]

theorem Row.length_putInto {row : Row} {rows : List Row} (new : ∀ other ∈ rows, other.id ≠ row.id) :
    (row.putInto rows).length = rows.length + 1 := by
  induction rows with
  | nil => rfl
  | cons first rest ih =>
      obtain ⟨apart, newRest⟩ := List.forall_mem_cons.mp new
      simp only [putInto]
      split
      · rfl
      · rw [if_neg fun same => apart same.symm, List.length_cons, ih newRest, List.length_cons]

namespace Cell

theorem same_integer_iff (left right : Int) :
    (integer left).same (.integer right) = true ↔ left = right := by
  simp [same, number?, ExactNumber.equals, ExactNumber.ofInt]

theorem toInt?_of_settle {number : Double} {whole : Int} (settles : settle number = .integer whole) :
    number.toInt? = some whole := by
  simp only [settle] at settles
  split at settles
  · rename_i isWhole
    split at settles
    · rw [isWhole, integer.inj settles]
    · cases settles
  · cases settles

theorem same_real_iff {number : Double} {whole : Int} (isWhole : number.toInt? = some whole)
    (other : Int) : (integer other).same (.real number) = true ↔ other = whole := by
  have compares : (integer other).same (.real number) =
      (ExactNumber.ofInt other).equals (.ofDouble number) := by
    cases number with
    | nan => cases isWhole
    | infinity => cases isWhole
    | finite => rfl
  rw [compares, ExactNumber.equals_ofDouble_iff isWhole]

theorem same_compared_iff {cell : Cell} {whole : Int} (drawn : cell.drawn .numeric = .integer whole)
    (other : Int) : (integer other).same (cell.compared .numeric) = true ↔ other = whole := by
  cases cell with
  | null => cases drawn
  | blob => cases drawn
  | integer number =>
      obtain rfl := integer.inj drawn
      exact same_integer_iff other number
  | real number => exact same_real_iff (toInt?_of_settle drawn) other
  | text word =>
      simp only [Cell.drawn] at drawn
      simp only [compared]
      split at drawn
      · rename_i number spells
        rw [spells]
        exact same_real_iff (toInt?_of_settle drawn) other
      · rename_i number _ spells
        rw [spells, drawn]
        exact same_integer_iff other whole
      · cases drawn

end Cell

namespace Table

variable {table after : Table} {model : Model} {row old : Row} {given : Option Cell}
  {cells : List (String × Cell)}

theorem row_unique {other : Row} (here : row ∈ table.rows) (there : other ∈ table.rows)
    (same : row.id = other.id) : row = other := by
  have distinct : (table.rows.map Row.id).Nodup :=
    List.pairwise_map.mpr (table.sorted.imp Int.ne_of_lt)
  exact List.inj_on_of_nodup_map distinct here there same

theorem find?_eq_some_iff {id : Int} : table.find? id = some row ↔ row ∈ table.rows ∧ row.id = id := by
  constructor
  · intro found
    exact ⟨List.mem_of_find?_eq_some found, by simpa using List.find?_some found⟩
  · rintro ⟨listed, rfl⟩
    cases found : table.find? row.id with
    | none =>
        have missing := List.find?_eq_none.mp found row listed
        simp at missing
    | some other =>
        have there : other ∈ table.rows := List.mem_of_find?_eq_some found
        have same : other.id = row.id := by simpa using List.find?_some found
        exact congrArg some (row_unique there listed same)

theorem find?_of_mem (listed : row ∈ table.rows) : table.find? row.id = some row :=
  find?_eq_some_iff.mpr ⟨listed, rfl⟩

theorem find?_eq_none_iff {id : Int} : table.find? id = none ↔ ∀ row ∈ table.rows, row.id ≠ id := by
  simp [find?]

theorem find?_put (table : Table) (row : Row) (id : Int) :
    (table.put row).find? id = if id = row.id then some row else table.find? id :=
  row.find?_putInto table.rows id

theorem mem_put (table : Table) (row : Row) : row ∈ (table.put row).rows := by
  have placed := table.find?_put row row.id
  rw [if_pos rfl] at placed
  exact (find?_eq_some_iff.mp placed).1

theorem find?_removeWhere (table : Table) (holds : Row → Bool) (id : Int) :
    (table.removeWhere holds).find? id = (table.find? id).filter fun row => !holds row := by
  cases found : table.find? id with
  | none =>
      rw [Option.filter_none, find?_eq_none_iff]
      exact fun row kept => find?_eq_none_iff.mp found row (List.mem_filter.mp kept).1
  | some row =>
      obtain ⟨listed, rfl⟩ := find?_eq_some_iff.mp found
      cases gone : holds row with
      | false =>
          have kept : row ∈ (table.removeWhere holds).rows :=
            List.mem_filter.mpr ⟨listed, by simp [gone]⟩
          simpa [Option.filter, gone] using find?_of_mem kept
      | true =>
          have missing : (table.removeWhere holds).find? row.id = none := by
            refine find?_eq_none_iff.mpr fun other kept same => ?_
            obtain ⟨there, stays⟩ := List.mem_filter.mp kept
            have equal := (find?_of_mem there).symm.trans (same ▸ find?_of_mem listed)
            obtain rfl := Option.some.inj equal
            simp [gone] at stays
          simpa [Option.filter, gone] using missing

theorem length_put (new : table.find? row.id = none) :
    (table.put row).rows.length = table.rows.length + 1 :=
  Row.length_putInto (find?_eq_none_iff.mp new)

theorem length_removeOwn (present : old ∈ table.rows) :
    (table.removeWhere fun row => row.id == old.id).rows.length + 1 = table.rows.length := by
  have sorted := table.sorted
  simp only [removeWhere]
  revert present sorted
  induction table.rows with
  | nil => simp
  | cons first rest ih =>
      intro present sorted
      obtain ⟨least, sortedRest⟩ := List.pairwise_cons.mp sorted
      rcases List.mem_cons.mp present with rfl | later
      · have kept : rest.filter (fun row => !(row.id == old.id)) = rest := by
          refine List.filter_eq_self.mpr fun row listed => ?_
          simpa using (Int.ne_of_lt (least row listed)).symm
        rw [List.filter_cons_of_neg (by simp), kept, List.length_cons]
      · have apart := Int.ne_of_lt (least old later)
        rw [List.filter_cons_of_pos (by simpa using apart), List.length_cons, List.length_cons,
          ih later sortedRest]

theorem drawn_of_identityOf {cell : Cell} {id : Int} (identified : identityOf cell = .ok id) :
    cell.drawn .numeric = .integer id := by
  simp only [identityOf] at identified
  split at identified
  · rename_i numeric
    rw [numeric, Except.ok.inj identified]
  · cases identified

theorem locate?_of_identityOf (table : Table) {cell : Cell} {id : Int}
    (identified : identityOf cell = .ok id) : table.locate? cell = table.find? id := by
  refine List.find?_congr fun row _ => ?_
  rw [Bool.eq_iff_iff, beq_iff_eq]
  exact Cell.same_compared_iff (drawn_of_identityOf identified) row.id

theorem locate?_integer (table : Table) (id : Int) : table.locate? (.integer id) = table.find? id :=
  table.locate?_of_identityOf rfl

theorem new_of_check {others : List Row} (accepted : check model others row = .ok ()) :
    ∀ other ∈ others, other.id ≠ row.id := by
  simp only [check] at accepted
  split at accepted
  · cases accepted
  · split at accepted
    · cases accepted
    · rename_i distinct
      simpa using distinct

theorem put_of_check {placed : Row} (ran : (do
    check model table.rows placed
    pure (placed, table.put placed)) = .ok (row, after)) :
    row = placed ∧ table.find? row.id = none ∧ after = table.put row := by
  obtain ⟨_, accepted, same⟩ := bind_eq_ok_iff.mp ran
  obtain ⟨rfl, rfl⟩ := Prod.mk.inj (Except.ok.inj same)
  exact ⟨rfl, find?_eq_none_iff.mpr (new_of_check accepted), rfl⟩

def Identified (given : Option Cell) (otherwise id : Int) : Prop :=
  match given with
  | some cell => identityOf cell = .ok id
  | none => id = otherwise

/-- An insert puts a row under an identity that no row had: the given one, or the next. -/
theorem insert_ok (inserted : table.insert model given cells = .ok (row, after)) :
    Identified given table.nextId row.id ∧ row.cells = cells ∧ table.find? row.id = none ∧
      after = table.put row := by
  cases given with
  | some cell =>
      obtain ⟨id, identified, placed⟩ := bind_eq_ok_iff.mp inserted
      obtain ⟨rfl, there⟩ := put_of_check placed
      exact ⟨identified, rfl, there⟩
  | none =>
      obtain ⟨rfl, there⟩ := put_of_check inserted
      exact ⟨rfl, rfl, there⟩

/-- An update puts the changed row in the place of the old one, under its identity or under one that
no row had. -/
theorem update_ok (present : old ∈ table.rows)
    (updated : table.update model old given cells = .ok (row, after)) :
    Identified given old.id row.id ∧ row.cells = assignAll old.cells cells ∧
    (row.id = old.id ∨ table.find? row.id = none) ∧
    (∀ id, after.find? id =
      if id = row.id then some row else if id = old.id then none else table.find? id) ∧
    after.rows.length = table.rows.length := by
  have others (id : Int) : (table.removeWhere fun row => row.id == old.id).find? id =
      if id = old.id then none else table.find? id := by
    rw [find?_removeWhere]
    cases found : table.find? id with
    | none => simp
    | some row =>
        obtain ⟨_, rfl⟩ := find?_eq_some_iff.mp found
        by_cases same : row.id = old.id
        · simp [Option.filter, same]
        · simp [Option.filter, same]
  -- With a given identity or without, the row is put into the table that has lost the old one.
  have placed {last : Table} (new : (table.removeWhere fun row => row.id == old.id).find? row.id = none)
      (put : last = (table.removeWhere fun row => row.id == old.id).put row) :
      (row.id = old.id ∨ table.find? row.id = none) ∧
      (∀ id, last.find? id =
        if id = row.id then some row else if id = old.id then none else table.find? id) ∧
      last.rows.length = table.rows.length := by
    subst put
    refine ⟨?_, fun id => ?_, ?_⟩
    · by_cases same : row.id = old.id
      · exact .inl same
      · rw [others, if_neg same] at new
        exact .inr new
    · rw [find?_put, others]
    · rw [length_put new]
      exact length_removeOwn present
  cases given with
  | some cell =>
      obtain ⟨id, identified, ran⟩ := bind_eq_ok_iff.mp updated
      obtain ⟨rfl, new, put⟩ := put_of_check ran
      exact ⟨identified, rfl, placed new put⟩
  | none =>
      obtain ⟨rfl, new, put⟩ := put_of_check updated
      exact ⟨rfl, rfl, placed new put⟩

theorem update_in_place (present : old ∈ table.rows)
    (updated : table.update model old none cells = .ok (row, after)) :
    row.id = old.id ∧ ∀ id, after.find? id = if id = old.id then some row else table.find? id := by
  obtain ⟨identified, _, _, found, _⟩ := update_ok present updated
  have same : row.id = old.id := identified
  refine ⟨same, fun id => ?_⟩
  rw [found, same]
  by_cases here : id = old.id
  · simp [here]
  · simp [here]

theorem nextId_pos (positive : ∀ row ∈ table.rows, 0 < row.id) : 0 < table.nextId := by
  have free : 0 < table.freeId := by
    simp only [freeId]
    cases found : List.find? (fun id => (table.find? id).isNone)
        ((List.range (table.rows.length + 1)).map fun (index : Nat) => (index : Int) + 1) with
    | none => simp
    | some id =>
        obtain ⟨index, _, rfl⟩ := List.mem_map.mp (List.mem_of_find?_eq_some found)
        simp only [Option.getD_some]
        omega
  simp only [nextId]
  split
  · rename_i last found
    have above := positive last (List.mem_of_getLast? found)
    split
    · omega
    · exact free
  · omega

end Table
end RecordStore
