import RecordStore.Proofs.CellOrder

/-!
The order of rows by sort terms. The terms are read one after the other: a row stands before another
one if the first term that tells them apart puts it there. Sorted rows never stand behind a row that
they should stand before.
-/

namespace RecordStore

def Row.stored (row : Row) (column : String) : Cell :=
  if column = Attribute.identity.column then .integer row.id
  else (row.cells.lookup column).getD .null

theorem Row.cell_eq_stored (row : Row) (attr : Attribute) : row.cell attr = row.stored attr.column :=
  rfl

namespace SortTerm

def before (less : Cell → Cell → Bool) (term : SortTerm) (left right : Row) : Bool :=
  match term.direction with
  | some .descending => less (right.stored term.column) (left.stored term.column)
  | _ => less (left.stored term.column) (right.stored term.column)

theorem weakOrder_before (term : SortTerm) : WeakOrder (term.before Cell.less) := by
  have rising := Cell.weakOrder_less.onPart fun (row : Row) => row.stored term.column
  unfold before
  split
  · exact rising.swap
  · exact rising

/-- Whether the first of some terms that tells two rows apart puts the left one before the right
one. -/
def Precedes (before : SortTerm → Row → Row → Bool) (terms : List SortTerm) (left right : Row) :
    Prop :=
  ∃ earlier term later, terms = earlier ++ term :: later ∧
    (∀ tied ∈ earlier, before tied left right = false ∧ before tied right left = false) ∧
    before term left right = true

theorem precedes_cons_iff {before : SortTerm → Row → Row → Bool} {term : SortTerm}
    {terms : List SortTerm} {left right : Row} :
    Precedes before (term :: terms) left right ↔ before term left right = true ∨
      before term left right = false ∧ before term right left = false ∧
        Precedes before terms left right := by
  constructor
  · rintro ⟨earlier, deciding, later, split, tied, before⟩
    cases earlier with
    | nil =>
        obtain ⟨rfl, rfl⟩ := List.cons.inj split
        exact .inl before
    | cons first earlier =>
        obtain ⟨rfl, rfl⟩ := List.cons.inj split
        obtain ⟨tiedFirst, tiedRest⟩ := List.forall_mem_cons.mp tied
        exact .inr ⟨tiedFirst.1, tiedFirst.2, earlier, deciding, later, rfl, tiedRest, before⟩
  · rintro (before | ⟨notBefore, notBehind, earlier, deciding, later, rfl, tied, before⟩)
    · exact ⟨[], term, terms, rfl, by simp, before⟩
    · exact ⟨term :: earlier, deciding, later, rfl,
        List.forall_mem_cons.mpr ⟨⟨notBefore, notBehind⟩, tied⟩, before⟩

theorem precedes_congr {before before' : SortTerm → Row → Row → Bool} {terms : List SortTerm}
    {left right : Row} (same : ∀ term ∈ terms, before term left right = before' term left right ∧
      before term right left = before' term right left) :
    Precedes before terms left right ↔ Precedes before' terms left right := by
  induction terms with
  | nil => simp [Precedes]
  | cons term terms ih =>
      obtain ⟨⟨there, back⟩, rest⟩ := List.forall_mem_cons.mp same
      rw [precedes_cons_iff, precedes_cons_iff, there, back, ih rest]

def ofEntry (entry : Attribute × Option Direction) : SortTerm := ⟨entry.1.column, entry.2⟩

theorem mayPrecede_cons (entry : Attribute × Option Direction)
    (order : List (Attribute × Option Direction)) (left right : Row) :
    mayPrecede (entry :: order) left right = ((ofEntry entry).before Cell.less left right ||
      (!(ofEntry entry).before Cell.less right left && mayPrecede order left right)) := by
  obtain ⟨attr, _ | _ | _⟩ := entry <;> rfl

theorem mayPrecede_iff {order : List (Attribute × Option Direction)} {left right : Row} :
    mayPrecede order left right = true ↔
      ¬Precedes (before Cell.less) (order.map ofEntry) right left := by
  induction order with
  | nil => simp [mayPrecede, Precedes]
  | cons entry order ih =>
      have weak := weakOrder_before (ofEntry entry)
      rw [mayPrecede_cons, List.map_cons, precedes_cons_iff, Bool.or_eq_true, Bool.and_eq_true,
        Bool.not_eq_true', ih]
      constructor
      · rintro (before | ⟨notBehind, notPreceded⟩)
        · have notBehind := weak.asymm before
          simp [before, notBehind]
        · simp [notBehind, notPreceded]
      · intro notPreceded
        cases before : (ofEntry entry).before Cell.less left right with
        | true => exact .inl rfl
        | false =>
            refine .inr ⟨?_, fun later => ?_⟩
            · cases behind : (ofEntry entry).before Cell.less right left with
              | false => rfl
              | true => exact absurd (.inl behind) notPreceded
            · cases behind : (ofEntry entry).before Cell.less right left with
              | false => exact notPreceded (.inr ⟨behind, before, later⟩)
              | true => exact notPreceded (.inl behind)

theorem mayPrecede_trans (order : List (Attribute × Option Direction)) (first second third : Row)
    (left : mayPrecede order first second = true) (right : mayPrecede order second third = true) :
    mayPrecede order first third = true := by
  induction order with
  | nil => rfl
  | cons entry order ih =>
      have weak := weakOrder_before (ofEntry entry)
      rw [mayPrecede_cons, Bool.or_eq_true, Bool.and_eq_true, Bool.not_eq_true'] at left right ⊢
      rcases left with before | ⟨notBehind, restLeft⟩
      · rcases weak.between before third with here | there
        · exact .inl here
        · rcases right with before' | ⟨notBehind', _⟩
          · exact absurd before' (by simp [weak.asymm there])
          · exact absurd there (by simp [notBehind'])
      · rcases right with before' | ⟨notBehind', restRight⟩
        · rcases weak.between before' first with there | here
          · exact absurd there (by simp [notBehind])
          · exact .inl here
        · refine .inr ⟨?_, ih restLeft restRight⟩
          cases behind : (ofEntry entry).before Cell.less third first with
          | false => rfl
          | true =>
              rcases weak.between behind second with there | there
              · exact absurd there (by simp [notBehind'])
              · exact absurd there (by simp [notBehind])

theorem mayPrecede_total (order : List (Attribute × Option Direction)) (left right : Row) :
    (mayPrecede order left right || mayPrecede order right left) = true := by
  induction order with
  | nil => rfl
  | cons entry order ih =>
      rw [mayPrecede_cons, mayPrecede_cons]
      cases (ofEntry entry).before Cell.less left right <;> cases (ofEntry entry).before Cell.less right left <;>
        simp_all

theorem pairwise_mergeSort_mayPrecede (order : List (Attribute × Option Direction))
    (rows : List Row) : (rows.mergeSort (mayPrecede order)).Pairwise fun left right =>
      ¬Precedes (before Cell.less) (order.map ofEntry) right left :=
  (List.pairwise_mergeSort (mayPrecede_trans order) (mayPrecede_total order) rows).imp
    mayPrecede_iff.mp

theorem resolve_ok {model : Model} {terms : List SortTerm}
    (known : ∀ term ∈ terms, (model.column? term.column).isSome) :
    ∃ order, resolve model terms = .ok order ∧ order.map ofEntry = terms := by
  induction terms with
  | nil => exact ⟨[], rfl, rfl⟩
  | cons term terms ih =>
      obtain ⟨first, rest⟩ := List.forall_mem_cons.mp known
      obtain ⟨attr, found⟩ := Option.isSome_iff_exists.mp first
      obtain ⟨order, resolved, mapped⟩ := ih rest
      have column : attr.column = term.column := by simpa using List.find?_some found
      refine ⟨(attr, term.direction) :: order, ?_, ?_⟩
      · rw [resolve] at resolved ⊢
        rw [List.mapM_cons, Model.resolve, found, resolved]
        rfl
      · rw [List.map_cons, mapped, ofEntry, column]

theorem mem_compile {columns : List String} {directions : List Value} {term : SortTerm}
    (found : term ∈ compile columns directions) : term.column ∈ columns := by
  induction columns generalizing directions with
  | nil => simp [compile] at found
  | cons column columns ih =>
      cases directions with
      | nil =>
          rcases List.mem_cons.mp found with rfl | later
          · exact List.mem_cons_self
          · exact List.mem_cons_of_mem _ (ih later)
      | cons value values =>
          rcases List.mem_cons.mp found with rfl | later
          · exact List.mem_cons_self
          · exact List.mem_cons_of_mem _ (ih later)

end SortTerm
end RecordStore
