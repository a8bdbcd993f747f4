import RecordStore.Proofs.FilteredLists
import RecordStore.Proofs.PlainCase

/-!
Lists filtered by a text. The text is put into small letters with all its capitals, the column only
with the capitals from `A` to `Z`. So a text is found in any case of plain letters, but other letters
are found only where they are small in the column.
-/

namespace RecordStore

open Repository

theorem run_findAll_suiting {model : Model} {catalogue : Catalogue} {filter : Option Filter}
    {scope : Scope} {workspace : Workspace} (readable : Readable scope workspace)
    {items : List (Field × Value)} (given : catalogue.itemsOf filter = .ok items)
    (suits : ∀ item ∈ items, item.1.Suits model item.2) : ∃ handles after,
      (Repository.findAll ⟨model, .standard⟩ catalogue { filter := filter } 0 0 scope).run workspace =
        (.ok handles, after) ∧
      Presents model scope after
        (workspace.table.rows.filter fun row => items.all fun item => item.1.meets .byCell model row item.2)
        handles := by
  obtain ⟨clauses, predicates, compiled, predicated, holds, bindable⟩ :=
    compileFilter_suiting given suits
  have filtered : (fun row => items.all fun item => item.1.meets .byCell model row item.2) =
      Predicate.allHold predicates := funext fun row => (holds row).symm
  have unsorted : ∀ rows : List Row, rows.mergeSort (mayPrecede []) = rows := by
    intro rows
    exact List.mergeSort_of_pairwise (List.pairwise_of_forall fun _ _ => rfl)
  have lists : Repository.Lists ⟨model, .standard⟩ catalogue { filter := filter } workspace.table
      (workspace.table.rows.filter (Predicate.allHold predicates)) :=
    ⟨clauses, predicates, [], compiled, predicated, rfl, bindable, (unsorted _).symm⟩
  have fits : (0 : Int) < 2 ^ 63 := by decide
  obtain ⟨handles, after, ran, _, shown⟩ := findAll_of_lists lists readable fits fits
  exact ⟨handles, after, ran, filtered ▸ shown⟩

theorem meets_like_iff {model : Model} {row : Row} {field : Field} {value : Value} {attr : Attribute}
    {word text : String} (isLike : field.condition = .like) (isWord : value.asText? = some word)
    (present : word ≠ "") (column : model.column? field.target = some attr)
    (holdsText : row.cell attr = .text text) :
    field.meets .byCell model row value = true ↔ Like.Finds (Text.lower word).toList text.toList := by
  have restricts : field.restricts value = true := by
    simp only [Field.restricts, not_isAbsent_of_asText? isWord present, isLike]
    rfl
  have target : attr.column = field.target := by simpa using List.find?_some column
  have stored : row.stored field.target = .text text := by
    rw [← target, ← Row.cell_eq_stored, holdsText]
  have notNull : (Cell.text text != .null) = true := by simp
  rw [Field.meets, restricts, column, isLike]
  simp only [Bool.not_true, Bool.false_or, Condition.holds, isWord, stored, Cell.asText?, notNull,
    Bool.true_and]
  rw [Like.holds_containing_iff, Text.lowerAsciiText, String.toList_ofList,
    Like.finds_map_lowerAscii]

/-- A list filtered by a text alone shows exactly the rows whose text holds it but for the case of
plain letters. For rows whose text has no other capitals this is to hold it in any case. -/
theorem like_field_finds_but_for_plain_case (model : Model) (catalogue : Catalogue)
    (filter : Option Filter) (scope : Scope) {workspace : Workspace}
    (readable : Readable scope workspace) {items : List (Field × Value)}
    (given : catalogue.itemsOf filter = .ok items) {field : Field} {value : Value} {word : String}
    {attr : Attribute} (listed : (field, value) ∈ items)
    (alone : ∀ item ∈ items, item ≠ (field, value) → item.1.restricts item.2 = false)
    (isLike : field.condition = .like) (isWord : value.asText? = some word) (present : word ≠ "")
    (column : model.column? field.target = some attr) :
    ∃ rows handles after,
      (Repository.findAll ⟨model, .standard⟩ catalogue { filter := filter } 0 0 scope).run workspace =
        (.ok handles, after) ∧
      Presents model scope after rows handles ∧
      ∀ row ∈ workspace.table.rows, ∀ text : String, row.cell attr = .text text →
        (row ∈ rows ↔ Like.Finds (Text.lower word).toList text.toList) ∧
        (Like.untilZero (Text.lower word).toList = (Text.lower word).toList →
          Like.untilZero text.toList = text.toList →
          Text.lowerAsciiText text = Text.lower text →
          (row ∈ rows ↔ (Text.lower word).toList <:+: (Text.lower text).toList)) := by
  have suits : ∀ item ∈ items, item.1.Suits model item.2 := by
    intro item found restricts
    by_cases same : item = (field, value)
    · subst same
      refine ⟨attr, column, ?_⟩
      rw [isLike]
      exact Option.isSome_iff_exists.mpr ⟨word, isWord⟩
    · rw [alone item found same] at restricts
      cases restricts
  obtain ⟨handles, after, ran, shown⟩ := run_findAll_suiting readable given suits
  refine ⟨_, handles, after, ran, shown, fun row stored text holdsText => ?_⟩
  have finds : row ∈ (workspace.table.rows.filter fun row =>
      items.all fun item => item.1.meets .byCell model row item.2) ↔
      Like.Finds (Text.lower word).toList text.toList := by
    rw [← meets_like_iff isLike isWord present column holdsText, List.mem_filter, List.all_eq_true]
    constructor
    · rintro ⟨_, meets⟩
      exact meets _ listed
    · refine fun meets => ⟨stored, fun item found => ?_⟩
      by_cases same : item = (field, value)
      · exact same ▸ meets
      · rw [Field.meets, alone item found same]
        rfl
  refine ⟨finds, fun wordEnds textEnds plain => ?_⟩
  rw [finds, Like.Finds, if_pos wordEnds, textEnds, Text.map_lowerAscii_lower, ← plain,
    Text.lowerAsciiText, String.toList_ofList]

def nameFilters : Catalogue where
  fields := [⟨"name", some "name", .like⟩, ⟨"age", some "age", .between⟩]
  classes := [
    ⟨Catalogue.rootName, [], [0], []⟩,
    ⟨"PersonFilter", [("name", .field 0), ("age", .field 1)], [1, 0], [0, 1]⟩]

def hunters : Workspace where
  clock := default
  table := ⟨[⟨1, [("name", .text "JÄGER")]⟩, ⟨2, [("name", .text "Jäger")]⟩], by decide⟩

def huntersFilter : Filter := ⟨1, [("name", .text "JÄ")]⟩

theorem itemsOf_huntersFilter : nameFilters.itemsOf (some huntersFilter) = .ok [
    (⟨"name", some "name", .like⟩, .text "JÄ"), (⟨"age", some "age", .between⟩, .text "")] := by
  rfl

theorem hunter_in_small_letters_is_found : ∃ rows handles after,
    (Repository.findAll ⟨Samples.person, .standard⟩ nameFilters { filter := some huntersFilter }
      0 0).run hunters = (.ok handles, after) ∧
    Presents Samples.person none after rows handles ∧
    (⟨2, [("name", .text "Jäger")]⟩ : Row) ∈ rows := by
  obtain ⟨rows, handles, after, ran, shown, found⟩ := like_field_finds_but_for_plain_case
    Samples.person nameFilters (some huntersFilter) none
    (show Readable none hunters from trivial) itemsOf_huntersFilter List.mem_cons_self
    (by
      intro item listed different
      rcases List.mem_pair.mp listed with rfl | rfl
      · exact absurd rfl different
      · rfl)
    rfl rfl (by decide) rfl
  obtain ⟨finds, _⟩ := found ⟨2, [("name", .text "Jäger")]⟩ (by decide) "Jäger" rfl
  refine ⟨rows, handles, after, ran, shown, finds.mpr ?_⟩
  rw [Like.Finds]
  decide

theorem hunter_in_capitals_is_not_found : ∃ handles after,
    (Repository.findAll ⟨Samples.person, .standard⟩ nameFilters { filter := some huntersFilter }
      0 0).run hunters = (.ok handles, after) ∧
    Presents Samples.person none after [⟨2, [("name", .text "Jäger")]⟩] handles ∧
    (⟨1, [("name", .text "JÄGER")]⟩ : Row) ∈ hunters.table.rows ∧
    "JÄ".toList <:+: "JÄGER".toList ∧
    (Text.lower "JÄ").toList <:+: (Text.lower "JÄGER").toList := by
  have suits : ∀ item ∈ [
      ((⟨"name", some "name", .like⟩ : Field), Value.text "JÄ"),
      (⟨"age", some "age", .between⟩, .text "")], item.1.Suits Samples.person item.2 := by
    intro item listed restricts
    rcases List.mem_pair.mp listed with rfl | rfl
    · exact ⟨_, rfl, rfl⟩
    · cases restricts
  obtain ⟨handles, after, ran, shown⟩ :=
    run_findAll_suiting (show Readable none hunters from trivial) itemsOf_huntersFilter suits
  exact ⟨handles, after, ran, shown, by decide, by decide, by decide⟩

end RecordStore
