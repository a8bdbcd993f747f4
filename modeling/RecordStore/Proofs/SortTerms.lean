import RecordStore.Order.Term

/-!
Sort terms by position. Each column has one term, in the order of the columns, and a term has a direction
exactly if a plain text stands at its position that in capitals is the name of the direction. A direction
itself, though it is the text of its name, is written with its kind before it is read, and names none.
-/

namespace RecordStore

theorem Direction.ofName?_eq_some_iff {name : String} {direction : Direction} :
    ofName? name = some direction ↔ name = direction.name := by
  constructor
  · intro found
    rw [ofName?] at found
    have same := List.find?_some found
    exact (beq_iff_eq.mp same).symm
  · rintro rfl
    exact ofName?_name direction

namespace SortTerm

theorem direction?_eq_some_iff {value : Value} {direction : Direction} :
    direction? value = some direction ↔ Text.upper value.plain = direction.name :=
  Direction.ofName?_eq_some_iff

theorem direction?_condition (condition : Condition) : direction? (.condition condition) = none := by
  cases condition <;> decide +kernel

theorem direction?_direction (direction : Direction) : direction? (.direction direction) = none := by
  cases direction <;> decide +kernel

theorem direction?_of_isText {value : Value} (isText : value.isText = true) (direction : Direction) :
    direction? value = some direction ↔
      ∃ word, value = .text word ∧ Text.upper word = direction.name := by
  cases value with
  | text word =>
      rw [direction?_eq_some_iff]
      exact ⟨fun named => ⟨word, rfl, named⟩, fun ⟨_, same, named⟩ => Value.text.inj same ▸ named⟩
  | condition condition => simp [direction?_condition]
  | direction member => simp [direction?_direction]
  | _ => cases isText

theorem getElem?_compile (columns : List String) (values : List Value) (index : Nat) :
    (compile columns values)[index]? =
      columns[index]?.map fun column => ⟨column, values[index]?.bind direction?⟩ := by
  induction columns generalizing values index with
  | nil => rfl
  | cons column columns ih =>
      cases values with
      | nil =>
          cases index with
          | zero => rfl
          | succ index => exact ih [] index
      | cons value values =>
          cases index with
          | zero => rfl
          | succ index => exact ih values index

theorem columns_compile (columns : List String) (values : List Value) :
    (compile columns values).map column = columns := by
  refine List.ext_getElem? fun index => ?_
  rw [List.getElem?_map, getElem?_compile, Option.map_map]
  exact Option.map_id'

def directionText : Option Direction → Value
  | none => .empty
  | some direction => .text direction.name

def directionMember : Option Direction → Value
  | none => .empty
  | some direction => .direction direction

theorem direction?_empty : direction? .empty = none := by
  decide +kernel

theorem direction?_directionText (direction : Option Direction) :
    direction? (directionText direction) = direction := by
  cases direction with
  | none => exact direction?_empty
  | some direction => cases direction <;> decide +kernel

theorem direction?_directionMember (direction : Option Direction) :
    direction? (directionMember direction) = none := by
  cases direction with
  | none => exact direction?_empty
  | some direction => exact direction?_direction direction

theorem compile_again (terms : List SortTerm) (write : Option Direction → Value) :
    compile (terms.map column) (terms.map fun term => write term.direction) =
      terms.map fun term => ⟨term.column, direction? (write term.direction)⟩ := by
  induction terms with
  | nil => rfl
  | cons term terms ih => rw [List.map_cons, List.map_cons, compile, ih, List.map_cons]

/-- Columns and texts are compiled to one term for each column, in order. A term has a direction exactly if
a plain text at its position names it in letters of any case; texts that are directions or conditions name
none. Hence terms are compiled to themselves again from the names of their directions, and to terms without
directions from the directions themselves. -/
theorem plain_texts_alone_name_directions {columns : List String} {values : List Value}
    (texts : ∀ value ∈ values, value.isText = true) :
    let terms := compile columns values
    terms.map column = columns ∧
      (∀ (index : Nat) (term : SortTerm), terms[index]? = some term → ∀ direction,
        term.direction = some direction ↔
          ∃ word, values[index]? = some (.text word) ∧ Text.upper word = direction.name) ∧
      compile (terms.map column) (terms.map fun term => directionText term.direction) = terms ∧
      compile (terms.map column) (terms.map fun term => directionMember term.direction) =
        columns.map fun column => ⟨column, none⟩ := by
  intro terms
  have columnsKept : terms.map column = columns := columns_compile columns values
  refine ⟨columnsKept, fun index term found direction => ?_, ?_, ?_⟩
  · rw [getElem?_compile] at found
    obtain ⟨name, _, rfl⟩ := Option.map_eq_some_iff.mp found
    rw [Option.bind_eq_some_iff]
    constructor
    · rintro ⟨value, here, named⟩
      have isText := texts value (List.mem_of_getElem? here)
      obtain ⟨word, rfl, upper⟩ := (direction?_of_isText isText direction).mp named
      exact ⟨word, here, upper⟩
    · rintro ⟨word, here, upper⟩
      exact ⟨.text word, here, direction?_eq_some_iff.mpr upper⟩
  · rw [compile_again]
    simp only [direction?_directionText]
    exact List.map_id' terms
  · rw [compile_again, ← columnsKept, List.map_map]
    simp only [direction?_directionMember]
    rfl

/-- The second direction is one already, and names none. -/
theorem long_s_names_a_direction_and_a_member_does_not :
    compile ["name", "age", "name"] [.text "aſc", .direction .descending] =
        [⟨"name", some .ascending⟩, ⟨"age", none⟩, ⟨"name", none⟩] ∧
      ∀ direction, (⟨"age", none⟩ : SortTerm).direction = some direction ↔
        ∃ word, ([.text "aſc", .direction .descending] : List Value)[1]? = some (.text word) ∧
          Text.upper word = direction.name := by
  have compiles : compile ["name", "age", "name"] [.text "aſc", .direction .descending] =
      [⟨"name", some .ascending⟩, ⟨"age", none⟩, ⟨"name", none⟩] := by
    decide +kernel
  obtain ⟨_, directions, _⟩ := @plain_texts_alone_name_directions ["name", "age", "name"]
    [.text "aſc", .direction .descending] (by simp [Value.isText, Value.asText?])
  refine ⟨compiles, directions 1 ⟨"age", none⟩ ?_⟩
  rw [compiles]
  rfl

/-- The descending direction is the text of its name, which is the same in capitals, and yet a term that has
it loses it when it is compiled again. -/
theorem descending_does_not_name_itself :
    (Value.direction .descending).asText? = some Direction.descending.name ∧
      Text.upper Direction.descending.name = Direction.descending.name ∧
      compile ["age"] [.text "desc"] = [⟨"age", some .descending⟩] ∧
      compile ["age"] [directionMember (some .descending)] = [⟨"age", none⟩] := by
  decide +kernel

end SortTerm
end RecordStore
