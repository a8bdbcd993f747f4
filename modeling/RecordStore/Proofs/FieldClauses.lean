import RecordStore.Proofs.FilterMeaning
import RecordStore.Proofs.LiteralPattern

/-!
The clauses of a filter, field by field. A condition takes values of some forms and refuses all others. A
value that it takes becomes at most one clause, whatever the other fields hold; the first value that is
refused ends the whole.
-/

namespace RecordStore

namespace Condition

/-- Whether a condition takes a value that was given: a text, an interval, a sequence of texts, or a value
that is no interval, mapping or sequence. -/
def takes : Condition → Value → Bool
  | .equality, value => !value.isBounds && !value.isMapping && value.items?.isNone
  | .like, value => value.isText
  | .between, value => value.isBounds
  | .or, value => value.items?.any fun items => items.all Value.isText

def expected : Condition → String
  | .equality => "a scalar"
  | .like => "str"
  | .between => "CompareFilter"
  | .or => "a sequence of str"

/-- The value that a refusal names: the first item of a sequence that is no text, or the value itself. -/
def misfit (condition : Condition) (value : Value) : Value :=
  match condition, value.items? with
  | .or, some items => (items.find? fun item => !item.isText).getD value
  | _, _ => value

def operands : Condition → Value → List Value
  | .equality, value => [value]
  | .like, value => (value.asText?.map fun text => .text (Pattern.containing (Text.lower text))).toList
  | .between, .bounds low high => [low, high]
  | .between, _ => []
  | .or, value => value.items?.getD []

end Condition

namespace Field

variable {field : Field} {value : Value}

def clause? (field : Field) (value : Value) : Option Clause :=
  if field.restricts value then some (field.clause (field.condition.operands value)) else none

def Accepts (field : Field) (value : Value) : Prop :=
  value.isAbsent = false → field.condition.takes value = true

theorem clause?_of_isAbsent (absent : value.isAbsent = true) : field.clause? value = none := by
  simp only [clause?, restricts, absent, Bool.not_true, Bool.false_and, Bool.false_eq_true, if_false]

theorem compile_takes (given : value.isAbsent = false) (taken : field.condition.takes value = true) :
    field.compile value = .ok (field.clause? value) := by
  cases condition : field.condition with
  | equality =>
      rw [condition] at taken
      have scalar : value.isScalar = true := taken
      have restricts : field.restricts value = true := by simp [restricts, condition, given]
      simp only [compile, condition, scalar, if_true, clause?, restricts, Condition.operands]
  | like =>
      rw [condition] at taken
      obtain ⟨text, spells⟩ := Option.isSome_iff_exists.mp taken
      have restricts : field.restricts value = true := by simp [restricts, condition, given]
      simp only [compile, condition, spells, clause?, restricts, if_true, Condition.operands]
      rfl
  | between =>
      rw [condition] at taken
      cases value with
      | bounds low high =>
          have restricts : field.restricts (.bounds low high) = !low.isAbsent := by
            simp [restricts, condition, given]
          simp only [compile, condition, clause?, restricts, Condition.operands]
          cases low.isAbsent <;> rfl
      | _ => cases taken
  | or =>
      rw [condition] at taken
      obtain ⟨items, listed, texts⟩ := (Option.any_eq_true _ _).mp taken
      have noOther : items.find? (fun item => !item.isText) = none :=
        List.find?_eq_none.mpr fun item found => by simp [List.all_eq_true.mp texts item found]
      have restricts : field.restricts value = !items.isEmpty := by
        simp [restricts, condition, given, listed]
      simp only [compile, condition, listed, noOther, clause?, restricts, Condition.operands]
      cases items.isEmpty <;> rfl

theorem compile_refuses (refused : field.condition.takes value = false) :
    field.compile value = .error (.filterType field.name field.condition.name
      field.condition.expected (field.condition.misfit value)) := by
  cases condition : field.condition with
  | equality =>
      rw [condition] at refused
      have notScalar : value.isScalar = false := refused
      simp only [compile, condition, notScalar, Bool.false_eq_true, if_false]
      simp only [refuse, condition, Condition.expected, Condition.misfit]
  | like =>
      rw [condition] at refused
      have noText : value.asText? = none :=
        Option.not_isSome_iff_eq_none.mp (Bool.eq_false_iff.mp refused)
      simp only [compile, condition, noText]
      simp only [refuse, condition, Condition.expected, Condition.misfit]
  | between =>
      rw [condition] at refused
      cases value with
      | bounds low high => cases refused
      | _ => simp only [compile, condition, refuse, Condition.expected, Condition.misfit]
  | or =>
      rw [condition] at refused
      cases listed : value.items? with
      | none =>
          simp only [compile, condition, listed, refuse, Condition.expected, Condition.misfit]
      | some items =>
          have someOther : ∃ item ∈ items, (!item.isText) = true := by
            simpa [Condition.takes, listed] using refused
          obtain ⟨item, found⟩ := Option.isSome_iff_exists.mp (List.find?_isSome.mpr someOther)
          simp only [compile, condition, listed, found, refuse, Condition.expected, Condition.misfit,
            Option.getD_some]

def reading (item : Field × Value) : Field × Except Failure Value := (item.1, .ok item.2)

end Field

theorem compileReadings_accepted {item : Field × Value} (accepts : item.1.Accepts item.2) :
    compileReadings [Field.reading item] = .ok (item.1.clause? item.2).toList := by
  simp only [Field.reading, compileReadings, ok_bind]
  split
  · rename_i absent
    rw [Field.clause?_of_isAbsent absent]
    rfl
  · rename_i given
    have given : item.2.isAbsent = false := by simpa using given
    rw [Field.compile_takes given (accepts given), ok_bind, List.append_nil]
    rfl

theorem compileReadings_refused {item : Field × Value} (given : item.2.isAbsent = false)
    (refused : item.1.condition.takes item.2 = false) :
    compileReadings [Field.reading item] = .error (.filterType item.1.name item.1.condition.name
      item.1.condition.expected (item.1.condition.misfit item.2)) := by
  simp only [Field.reading, compileReadings, ok_bind, given, Bool.false_eq_true, if_false,
    Field.compile_refuses refused, error_bind]

theorem accepts_of_compileReadings {item : Field × Value} {clauses : List Clause}
    (compiled : compileReadings [Field.reading item] = .ok clauses) : item.1.Accepts item.2 := by
  intro given
  cases taken : item.1.condition.takes item.2 with
  | true => rfl
  | false =>
      rw [compileReadings_refused given taken] at compiled
      cases compiled

theorem compileReadings_each (items : List (Field × Value)) :
    compileReadings (items.map Field.reading) =
      (items.mapM fun item => compileReadings [Field.reading item]).map List.flatten := by
  induction items with
  | nil => rfl
  | cons item items ih =>
      have split : (item :: items).map Field.reading =
          [Field.reading item] ++ items.map Field.reading := rfl
      rw [split, compileReadings_append, ih, List.mapM_cons]
      cases compileReadings [Field.reading item] with
      | error failure => rfl
      | ok first =>
          simp only [ok_bind]
          cases items.mapM fun item => compileReadings [Field.reading item] with
          | error failure => rfl
          | ok rest => rfl

theorem items_iff_readings {readings : List (Field × Except Failure Value)} {items : List (Field × Value)} :
    readings.mapM (fun reading => reading.2.map fun value => (reading.1, value)) = .ok items ↔
      readings = items.map Field.reading := by
  rw [mapM_eq_ok_iff, ← List.forall₂_eq_eq_eq, List.forall₂_map_right_iff]
  constructor
  · intro paired
    refine paired.imp fun reading item same => ?_
    obtain ⟨value, given, rfl⟩ := map_eq_ok_iff.mp same
    exact Prod.ext rfl given
  · intro paired
    refine paired.imp fun reading item same => ?_
    rw [same]
    rfl

theorem compileReadings_ok_iff {readings : List (Field × Except Failure Value)} {clauses : List Clause} :
    compileReadings readings = .ok clauses ↔ ∃ items : List (Field × Value),
      readings = items.map Field.reading ∧ (∀ item ∈ items, item.1.Accepts item.2) ∧
        clauses = items.filterMap fun item => item.1.clause? item.2 := by
  induction readings generalizing clauses with
  | nil =>
      constructor
      · intro compiled
        exact ⟨[], rfl, fun item found => (List.not_mem_nil found).elim, (Except.ok.inj compiled).symm⟩
      · rintro ⟨items, same, accepted, rfl⟩
        obtain rfl := List.map_eq_nil_iff.mp same.symm
        rfl
  | cons reading readings ih =>
      have split : reading :: readings = [reading] ++ readings := rfl
      rw [split, compileReadings_append, bind_eq_ok_iff]
      constructor
      · rintro ⟨first, compiled, rest⟩
        obtain ⟨later, others, same⟩ := bind_eq_ok_iff.mp rest
        obtain ⟨items, rfl, accepted, rfl⟩ := ih.mp others
        obtain ⟨field, outcome⟩ := reading
        cases outcome with
        | error failure => cases compiled
        | ok value =>
            have accepts := @accepts_of_compileReadings (field, value) first compiled
            have single := (compileReadings_accepted accepts).symm.trans compiled
            obtain rfl := Except.ok.inj single
            refine ⟨(field, value) :: items, rfl, List.forall_mem_cons.mpr ⟨accepts, accepted⟩, ?_⟩
            obtain rfl := Except.ok.inj same
            rw [List.filterMap_cons]
            cases field.clause? value <;> rfl
      · rintro ⟨items, same, accepted, rfl⟩
        obtain ⟨item, items, rfl, rfl, rfl⟩ := List.map_eq_cons_iff.mp same.symm
        obtain ⟨accepts, accepted⟩ := List.forall_mem_cons.mp accepted
        refine ⟨_, compileReadings_accepted accepts, ?_⟩
        rw [ih.mpr ⟨items, rfl, accepted, rfl⟩, ok_bind, List.filterMap_cons]
        cases item.1.clause? item.2 <;> rfl

theorem Field.reading_injective : Function.Injective Field.reading := by
  intro left right same
  obtain ⟨fields, values⟩ := Prod.mk.inj same
  exact Prod.ext fields (Except.ok.inj values)

theorem compileReadings_items_ok_iff {items : List (Field × Value)} {clauses : List Clause} :
    compileReadings (items.map Field.reading) = .ok clauses ↔
      (∀ item ∈ items, item.1.Accepts item.2) ∧
        clauses = items.filterMap fun item => item.1.clause? item.2 := by
  rw [compileReadings_ok_iff]
  constructor
  · rintro ⟨others, same, accepted⟩
    obtain rfl := List.map_injective_iff.mpr Field.reading_injective same
    exact accepted
  · exact fun accepted => ⟨items, rfl, accepted⟩

theorem filterMap_clause? (items : List (Field × Value)) :
    (items.filterMap fun item => item.1.clause? item.2) =
      (items.filter fun item => item.1.restricts item.2).map fun item =>
        item.1.clause (item.1.condition.operands item.2) := by
  induction items with
  | nil => rfl
  | cons item items ih =>
      rw [List.filterMap_cons, ih, List.filter_cons, Field.clause?]
      cases item.1.restricts item.2 <;> rfl

theorem compileFilter_of_items {catalogue : Catalogue} {filter : Filter} {items : List (Field × Value)}
    (given : catalogue.items filter = .ok items) :
    compileFilter catalogue (some filter) = compileReadings (items.map Field.reading) := by
  obtain ⟨_, callable, read⟩ := bind_eq_ok_iff.mp given
  rw [compileFilter, callable, ok_bind, items_iff_readings.mp read]

/-- A filter is compiled exactly if every value that is given, other than null and the empty text, is one
that its field's condition takes. Each field that restricts anything then has one clause, in the order of
the fields; otherwise the first field is reported that refuses its value. The clauses of all fields are
those of each field alone, one after the other. -/
theorem filter_is_compiled_field_by_field {catalogue : Catalogue} {filter : Filter}
    {items : List (Field × Value)} (given : catalogue.items filter = .ok items) :
    ((∃ clauses, compileFilter catalogue (some filter) = .ok clauses) ↔
      ∀ item ∈ items, item.2.isAbsent = false → item.1.condition.takes item.2 = true) ∧
    (∀ clauses, compileFilter catalogue (some filter) = .ok clauses →
      clauses = (items.filter fun item => item.1.restricts item.2).map fun item =>
        ⟨item.1.target, .known item.1.condition, item.1.condition.operands item.2⟩) ∧
    (∀ before field value after, items = before ++ (field, value) :: after →
      (∀ item ∈ before, item.2.isAbsent = false → item.1.condition.takes item.2 = true) →
      value.isAbsent = false → field.condition.takes value = false →
      compileFilter catalogue (some filter) = .error (.filterType field.name field.condition.name
        field.condition.expected (field.condition.misfit value))) ∧
    compileFilter catalogue (some filter) =
      (items.mapM fun item => compileReadings [Field.reading item]).map List.flatten := by
  have compiles := compileFilter_of_items given
  refine ⟨⟨?_, ?_⟩, ?_, ?_, compiles.trans (compileReadings_each items)⟩
  · rintro ⟨clauses, compiled⟩
    exact (compileReadings_items_ok_iff.mp (compiles.symm.trans compiled)).1
  · intro accepted
    exact ⟨_, compiles.trans (compileReadings_items_ok_iff.mpr ⟨accepted, rfl⟩)⟩
  · intro clauses compiled
    obtain ⟨_, rfl⟩ := compileReadings_items_ok_iff.mp (compiles.symm.trans compiled)
    exact filterMap_clause? items
  · rintro before field value after rfl accepted present refused
    have passed := compileReadings_items_ok_iff.mpr ⟨accepted, rfl⟩
    have split : (before ++ (field, value) :: after).map Field.reading =
        before.map Field.reading ++ ([Field.reading (field, value)] ++ after.map Field.reading) :=
      List.map_append
    have refusal := @compileReadings_refused (field, value) present refused
    rw [compiles, split, compileReadings_append, passed, ok_bind, compileReadings_append, refusal]
    rfl

def everyCondition : Catalogue where
  fields := [
    ⟨"name", some "name", .like⟩, ⟨"age", some "age", .between⟩, ⟨"status", some "status", .or⟩,
    ⟨"email", some "email_address", .equality⟩]
  classes := [
    ⟨Catalogue.rootName, [], [0], []⟩,
    ⟨"EveryFilter", [("name", .field 0), ("age", .field 1), ("status", .field 2), ("email", .field 3)],
      [1, 0], [0, 1, 2, 3]⟩]

/-- The interval is open below and restricts nothing; the second status is no text, and the sequence of
addresses is not looked at any more. -/
theorem number_among_texts_is_refused :
    ∃ items, everyCondition.items ⟨1, [("name", .direction .descending),
        ("age", .bounds .empty (.integer 40)), ("status", .tuple [.text "new", .integer 5, .null]),
        ("email", .list [])]⟩ = .ok items ∧
      compileFilter everyCondition (some ⟨1, [("name", .direction .descending),
        ("age", .bounds .empty (.integer 40)), ("status", .tuple [.text "new", .integer 5, .null]),
        ("email", .list [])]⟩) =
        .error (.filterType "status" "OR" "a sequence of str" (.integer 5)) := by
  have given : everyCondition.items ⟨1, [("name", .direction .descending),
      ("age", .bounds .empty (.integer 40)), ("status", .tuple [.text "new", .integer 5, .null]),
      ("email", .list [])]⟩ = .ok _ := rfl
  obtain ⟨_, _, refuses, _⟩ := filter_is_compiled_field_by_field given
  refine ⟨_, given, ?_⟩
  exact refuses [(everyCondition.field 0, .direction .descending),
    (everyCondition.field 1, .bounds .empty (.integer 40))] (everyCondition.field 2)
    (.tuple [.text "new", .integer 5, .null]) [(everyCondition.field 3, .list [])] rfl
    (by decide) rfl rfl

end RecordStore
