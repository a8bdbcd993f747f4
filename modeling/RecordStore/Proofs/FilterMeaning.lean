import RecordStore.Filter.Compile
import RecordStore.Proofs.ColumnValues
import RecordStore.Proofs.SortedRows
import RecordStore.Repository

/-!
The meaning of filters. A field with a value asks something of the cell that a row has in the
field's column; the statement that is made of a filter selects the rows that meet all its fields.
-/

namespace RecordStore

namespace Condition

def suits (type : ColumnType) : Condition → Value → Bool
  | .equality, value => type.takes value
  | .between, .bounds low high => type.takes low && type.takes high
  | .between, _ => false
  | .or, value =>
    match type, value.items? with
    | .text _, some items => items.all Value.isText
    | _, _ => false
  | .like, value => value.isText

/-- Whether a cell of a column meets a condition with a value, the ends of an interval included. Null
meets none. -/
def holds (how : Comparing) (type : ColumnType) (condition : Condition) (value : Value)
    (cell : Cell) : Bool :=
  cell != .null && match condition, value with
    | .equality, value => how.equals type cell value
    | .between, .bounds low high =>
      (how.above type cell low || how.equals type cell low) &&
        (how.below type cell high || how.equals type cell high)
    | .between, _ => false
    | .or, value => (value.items?.getD []).any (how.equals type cell)
    | .like, value =>
      match value.asText?, cell.asText? with
      | some text, some word => Like.holds (some Pattern.escapeMark)
          (Pattern.containing (Text.lower text)) (Text.lowerAsciiText word)
      | _, _ => false

end Condition

namespace Field

/-- Whether a field with a value restricts anything: the value is given, its interval has a first
end, its list has items. -/
def restricts (field : Field) (value : Value) : Bool :=
  !value.isAbsent && match field.condition, value with
    | .between, .bounds low _ => !low.isAbsent
    | .or, value => match value.items? with
      | some items => !items.isEmpty
      | none => true
    | _, _ => true

def meets (how : Comparing) (model : Model) (row : Row) (field : Field) (value : Value) : Bool :=
  !field.restricts value || match model.column? field.target with
    | some attr => field.condition.holds how attr.type value (row.stored field.target)
    | none => false

def Suits (model : Model) (field : Field) (value : Value) : Prop :=
  field.restricts value = true →
    ∃ attr, model.column? field.target = some attr ∧ field.condition.suits attr.type value = true

theorem meets_null {how : Comparing} {model : Model} {row : Row} {field : Field} {value : Value}
    (restricts : field.restricts value = true) (isNull : row.stored field.target = .null) :
    field.meets how model row value = false := by
  unfold meets
  rw [restricts, isNull]
  cases model.column? field.target <;> rfl

end Field

/-- Whether a cell of a column equals a value as a statement compares the two. Only null equals null. -/
def Attribute.equates (attr : Attribute) (value : Value) (cell : Cell) : Bool :=
  match value with
  | .null => cell == .null
  | .boolean truth => Test.related (Test.relation .equal) cell (Test.truthCell attr truth)
  | value => Test.related (Test.relation .equal) cell (Test.operandCell attr value)

namespace Test

theorem holds_equals_eq (attr : Attribute) (value : Value) (row : Row) :
    (equals attr value).holds row = attr.equates value (row.cell attr) := by
  cases value <;> rfl

section Operand

variable {attr : Attribute} {value : Value} {operand : Cell}

theorem operandCell_eq (typed : attr.type.boundCell? value = some operand) :
    operandCell attr value = operand := by
  obtain ⟨prepared, prepares, binds⟩ := bind_operand typed
  have bound : Cell.ofValue (attr.bindType.against value) value = operand := by
    rw [Cell.ofValue, prepares]
    simp only [Except.bind, binds]
  rw [operandCell, bound, (compared_operand typed).1]

theorem bindable_operand (typed : attr.type.boundCell? value = some operand) :
    Bindable (attr.bindType.against value, value) := by
  obtain ⟨prepared, prepares, binds⟩ := bind_operand typed
  exact ⟨prepared, operand, prepares, binds⟩

theorem related_operand (relation : Cell → Cell → Bool) (cell : Cell)
    (typed : attr.type.boundCell? value = some operand) :
    related relation cell operand = (cell != .null && relation cell operand) := by
  have notNull : (operand != .null) = true := by simpa using (compared_operand typed).2
  simp only [related, notNull, Bool.and_true]

theorem truthCell_eq {truth : Bool} (typed : attr.type.boundCell? (.boolean truth) = some operand) :
    truthCell attr truth = operand := by
  have same : operand = .integer (if truth then 1 else 0) := by
    rcases boundCell?_cases typed with ⟨_, _, isNumber, _⟩ | ⟨_, _, isTruth, same⟩ |
      ⟨_, _, _, spells, _⟩ | ⟨_, _, isNumber, _⟩ | ⟨_, _, isMoment, _⟩
    · cases isNumber
    · cases isTruth
      exact same
    · cases spells
    · cases isNumber
    · cases isMoment
  rw [truthCell, ← same, (compared_operand typed).1]

theorem equates_operand (typed : attr.type.boundCell? value = some operand) (cell : Cell) :
    attr.equates value cell = (cell != .null && cell.same operand) := by
  unfold Attribute.equates
  split
  · cases type : attr.type <;> rw [type] at typed <;> cases typed
  · rw [truthCell_eq typed, related_operand _ _ typed]
    rfl
  · rw [operandCell_eq typed, related_operand _ _ typed]
    rfl

theorem operand_nan (attr : Attribute) :
    Bindable (attr.bindType.against (.float .nan), .float .nan) ∧
      operandCell attr (.float .nan) = .null := by
  have prepares : (attr.bindType.against (.float .nan)).prepare (.float .nan) =
      .ok (.float .nan) := by
    refine prepare_against rfl fun alike => ?_
    cases type : attr.bindType <;>
      simp [type, BindType.ofValue, BindType.kind] at alike <;> rfl
  refine ⟨⟨_, _, prepares, rfl⟩, ?_⟩
  rw [operandCell, Cell.ofValue, prepares]
  exact Cell.compared_null _

theorem bindable_of_takes (takes : attr.type.takes value = true) :
    Bindable (attr.bindType.against value, value) := by
  rcases Cell.bound_operand takes with ⟨bound, typed, -⟩ | ⟨-, rfl⟩
  · exact bindable_operand typed
  · exact (operand_nan attr).1

theorem related_of_takes (takes : attr.type.takes value = true) (relation : Cell → Cell → Bool)
    (cell : Cell) : related relation cell (operandCell attr value) =
      (cell != .null && (attr.type.boundCell? value).any (relation cell)) := by
  rcases Cell.bound_operand takes with ⟨bound, typed, -⟩ | ⟨isFloat, rfl⟩
  · rw [operandCell_eq typed, related_operand relation cell typed, typed, Option.any_some]
  · rw [(operand_nan attr).2, isFloat]
    simp [related, ColumnType.boundCell?]

theorem holds_equals (takes : attr.type.takes value = true) (row : Row) :
    (equals attr value).holds row =
      (row.cell attr != .null && Comparing.byCell.equals attr.type (row.cell attr) value) := by
  rw [holds_equals_eq]
  rcases Cell.bound_operand takes with ⟨bound, typed, -⟩ | ⟨-, rfl⟩
  · simp only [equates_operand typed, Comparing.byCell, typed, Option.any_some]
  · exact related_of_takes takes _ _

theorem holds_between {low high : Value} (takesLow : attr.type.takes low = true)
    (takesHigh : attr.type.takes high = true) (row : Row) : (Test.between attr low high).holds row =
      Condition.between.holds .byCell attr.type (.bounds low high) (row.cell attr) := by
  have atLeast (bound : Cell) : relation .atLeast (row.cell attr) bound =
      (bound.less (row.cell attr) || (row.cell attr).same bound) := by
    rw [Bool.eq_iff_iff, relation, Bool.not_eq_true', Cell.not_less_iff, Bool.or_eq_true]
  have atMost (bound : Cell) : (!bound.less (row.cell attr)) =
      ((row.cell attr).less bound || (row.cell attr).same bound) := by
    rw [Bool.eq_iff_iff, Bool.not_eq_true', Cell.not_less_iff, Bool.or_eq_true, Cell.same_comm]
  rw [Test.holds, related_of_takes takesLow, related_of_takes takesHigh]
  simp only [Condition.holds, Comparing.byCell]
  cases attr.type.boundCell? low <;> cases attr.type.boundCell? high <;>
    simp only [Option.any_some, Option.any_none, atLeast, atMost, Bool.and_false, Bool.false_and,
      Bool.or_false]
  cases row.cell attr != .null <;> rfl

theorem bindable_equals (takes : attr.type.takes value = true) (model : Model) :
    ∀ place ∈ Token.places ((equals attr value).tokens (.adapter .sqlite) model), Bindable place := by
  unfold equals
  split
  · simp [tokens]
  · simp [tokens]
  · intro place found
    simp only [tokens, operandToken, Token.places, Token.binding?, List.filterMap_cons,
      List.filterMap_nil, List.mem_singleton] at found
    exact found ▸ bindable_of_takes takes

end Operand

end Test

/-- Whether a predicate expresses a demand on a column, with operands that can be bound. -/
structure Predicate.Expresses (model : Model) (attr : Attribute) (demand : Cell → Bool)
    (predicate : Predicate) : Prop where
  holds : ∀ row, predicate.holds row = demand (row.cell attr)
  bindable : ∀ test ∈ predicate.alternatives,
    ∀ place ∈ Token.places (test.tokens (.adapter .sqlite) model), Bindable place

namespace Predicate

theorem holds_ofTest (test : Test) (row : Row) : (ofTest test).holds row = test.holds row := by
  simp [holds, ofTest, isVoid]

variable {model : Model} {attr : Attribute} {value : Value} {demand : Cell → Bool}

theorem expresses_ofTest {test : Test} (holds : ∀ row, test.holds row = demand (row.cell attr))
    (bindable : ∀ place ∈ Token.places (test.tokens (.adapter .sqlite) model), Bindable place) :
    (ofTest test).Expresses model attr demand where
  holds row := (holds_ofTest test row).trans (holds row)
  bindable := by
    intro other found
    rw [ofTest, List.mem_singleton] at found
    exact found ▸ bindable

end Predicate

theorem Condition.holds_congr {how other : Comparing} {type : ColumnType} {condition : Condition}
    {value : Value} {cell : Cell} (suits : condition.suits type value = true)
    (agree : condition ≠ .like → how.AgreeOn other type cell) :
    condition.holds how type value cell = condition.holds other type value cell := by
  cases condition with
  | equality => simp only [holds, (agree nofun value suits).1]
  | between =>
      cases value with
      | bounds low high =>
          obtain ⟨takesLow, takesHigh⟩ := Bool.and_eq_true_iff.mp suits
          obtain ⟨equalsLow, _, aboveLow⟩ := agree nofun low takesLow
          obtain ⟨equalsHigh, belowHigh, _⟩ := agree nofun high takesHigh
          simp only [holds, equalsLow, aboveLow, equalsHigh, belowHigh]
      | _ => cases suits
  | or =>
      unfold Condition.suits at suits
      dsimp only at suits
      split at suits
      · rename_i length items listed
        have each (item : Value) (found : item ∈ items) :
            how.equals (.text length) cell item = other.equals (.text length) cell item :=
          (agree nofun item (List.all_eq_true.mp suits item found)).1
        have any : items.any (how.equals (.text length) cell) =
            items.any (other.equals (.text length) cell) := by
          rw [Bool.eq_iff_iff, List.any_eq_true, List.any_eq_true]
          exact exists_congr fun item => and_congr_right fun found => by rw [each item found]
        simp only [holds, listed, Option.getD_some, any]
      · cases suits
  | like => rfl

theorem Field.meets_congr {how other : Comparing} {model : Model} {row : Row} {field : Field}
    {value : Value} (suits : field.Suits model value)
    (agree : field.restricts value = true → field.condition ≠ .like → ∀ attr,
      model.column? field.target = some attr → how.AgreeOn other attr.type (row.stored field.target)) :
    field.meets how model row value = field.meets other model row value := by
  unfold meets
  cases restricts : field.restricts value with
  | false => rfl
  | true =>
      obtain ⟨attr, column, suited⟩ := suits restricts
      rw [column]
      dsimp only
      rw [Condition.holds_congr suited fun compares => agree restricts compares attr column]

section Compile

variable {model : Model} {attr : Attribute} {field : Field} {value : Value} {demand : Cell → Bool}

theorem compile_equality (isEquality : field.condition = .equality)
    (suits : Condition.equality.suits attr.type value = true) :
    ∃ operands predicate, field.compile value = .ok (some (field.clause operands)) ∧
      Registry.standard.apply (.known .equality) attr operands = .ok predicate ∧
      predicate.Expresses model attr (Condition.equality.holds .byCell attr.type value) := by
  refine ⟨[value], .ofTest (.equals attr value), ?_, ?_,
    Predicate.expresses_ofTest (Test.holds_equals suits) (Test.bindable_equals suits model)⟩
  · simp only [Field.compile, isEquality, (isScalar_of_takes suits).1, if_true]
  · simp only [Registry.apply_equality, (isScalar_of_takes suits).2, Bool.false_eq_true, if_false]

theorem compile_between {low high : Value} (isBetween : field.condition = .between)
    (bounded : low.isAbsent = false)
    (suits : Condition.between.suits attr.type (.bounds low high) = true) :
    ∃ operands predicate,
      field.compile (.bounds low high) = .ok (some (field.clause operands)) ∧
      Registry.standard.apply (.known .between) attr operands = .ok predicate ∧
      predicate.Expresses model attr
        (Condition.between.holds .byCell attr.type (.bounds low high)) := by
  obtain ⟨takesLow, takesHigh⟩ := Bool.and_eq_true_iff.mp suits
  refine ⟨[low, high], .ofTest (.between attr low high), ?_, ?_,
    Predicate.expresses_ofTest (Test.holds_between takesLow takesHigh) ?_⟩
  · simp only [Field.compile, isBetween, bounded]
    rfl
  · simp only [Registry.apply_between, (isScalar_of_takes takesLow).2,
      (isScalar_of_takes takesHigh).2, Bool.or_self, Bool.false_eq_true, if_false]
  · intro place found
    simp only [Test.tokens, Test.operandToken, Token.places, Token.binding?, List.filterMap_cons,
      List.filterMap_nil, List.mem_cons, List.not_mem_nil, or_false] at found
    rcases found with rfl | rfl
    · exact Test.bindable_of_takes takesLow
    · exact Test.bindable_of_takes takesHigh

theorem compile_or (isOr : field.condition = .or) (restricts : field.restricts value = true)
    (suits : Condition.or.suits attr.type value = true) :
    ∃ operands predicate, field.compile value = .ok (some (field.clause operands)) ∧
      Registry.standard.apply (.known .or) attr operands = .ok predicate ∧
      predicate.Expresses model attr (Condition.or.holds .byCell attr.type value) := by
  unfold Condition.suits at suits
  dsimp only at suits
  split at suits
  · rename_i length items type listed
    rw [List.all_eq_true] at suits
    have takes (item : Value) (found : item ∈ items) : attr.type.takes item = true := by
      rw [type]
      exact suits item found
    have noOther : items.find? (fun item => !item.isText) = none :=
      List.find?_eq_none.mpr fun item found => by simp [suits item found]
    have nonempty : items.isEmpty = false := by
      simp only [Field.restricts, isOr, listed] at restricts
      simpa using (Bool.and_eq_true_iff.mp restricts).2
    have noRecord : items.any Value.isRecord = false :=
      List.any_eq_false.mpr fun item found => by simp [(isScalar_of_takes (takes item found)).2]
    refine ⟨items, ⟨items.map (Test.equals attr)⟩, ?_, ?_, ?_, ?_⟩
    · simp only [Field.compile, isOr, listed, noOther, nonempty]
      rfl
    · simp only [Registry.apply_or, noRecord, Bool.false_eq_true, if_false]
    · intro row
      simp only [Predicate.holds, Predicate.isVoid, List.isEmpty_map, nonempty, Bool.false_or,
        Condition.holds, listed, Option.getD_some]
      rw [Bool.eq_iff_iff]
      simp only [List.any_eq_true, List.mem_map, Bool.and_eq_true]
      constructor
      · rintro ⟨_, ⟨item, found, rfl⟩, holds⟩
        rw [Test.holds_equals (takes item found), Bool.and_eq_true] at holds
        exact ⟨holds.1, item, found, holds.2⟩
      · rintro ⟨notNull, item, found, same⟩
        exact ⟨_, ⟨item, found, rfl⟩, by rw [Test.holds_equals (takes item found), notNull, same]; rfl⟩
    · intro test found
      obtain ⟨item, here, rfl⟩ := List.mem_map.mp found
      exact Test.bindable_equals (takes item here) model
  · cases suits

theorem compile_like (isLike : field.condition = .like)
    (suits : Condition.like.suits attr.type value = true) :
    ∃ operands predicate, field.compile value = .ok (some (field.clause operands)) ∧
      Registry.standard.apply (.known .like) attr operands = .ok predicate ∧
      predicate.Expresses model attr (Condition.like.holds .byCell attr.type value) := by
  obtain ⟨text, spells⟩ := Option.isSome_iff_exists.mp suits
  refine ⟨[.text (Pattern.containing (Text.lower text))], .ofTest (.like attr true true
    (.text (Pattern.containing (Text.lower text)))), ?_, rfl, Predicate.expresses_ofTest ?_ ?_⟩
  · simp only [Field.compile, isLike, spells]
  · intro row
    have pattern : Cell.ofValue (.ofValue (.text (Pattern.containing (Text.lower text))))
        (.text (Pattern.containing (Text.lower text))) =
        .text (Pattern.containing (Text.lower text)) := rfl
    simp only [Test.holds, if_true, pattern, Condition.holds, spells]
    cases row.cell attr <;> simp [Cell.asText?]
  · intro place found
    simp only [Test.tokens, Token.places, Token.binding?, if_true, List.cons_append, List.nil_append,
      List.filterMap_cons, List.filterMap_nil, List.mem_singleton] at found
    subst found
    exact ⟨_, _, rfl, rfl⟩

theorem compile_suiting (restricts : field.restricts value = true)
    (suits : field.condition.suits attr.type value = true) :
    ∃ operands predicate, field.compile value = .ok (some (field.clause operands)) ∧
      Registry.standard.apply (.known field.condition) attr operands = .ok predicate ∧
      predicate.Expresses model attr (field.condition.holds .byCell attr.type value) := by
  cases condition : field.condition with
  | equality => exact compile_equality condition (condition ▸ suits)
  | or => exact compile_or condition restricts (condition ▸ suits)
  | like => exact compile_like condition (condition ▸ suits)
  | between =>
      rw [condition] at suits
      cases value with
      | bounds low high =>
          refine compile_between condition ?_ suits
          simp only [Field.restricts, condition, Bool.and_eq_true, Bool.not_eq_true'] at restricts
          exact restricts.2
      | _ => cases suits

theorem compile_unrestricting (given : value.isAbsent = false)
    (unrestricting : field.restricts value = false) : field.compile value = .ok none := by
  unfold Field.restricts at unrestricting
  rw [given, Bool.not_false, Bool.true_and] at unrestricting
  split at unrestricting
  · rename_i low _ condition
    have absent : low.isAbsent = true := by simpa using unrestricting
    simp only [Field.compile, condition, absent, if_true]
  · rename_i condition
    split at unrestricting
    · rename_i items listed
      obtain rfl : items = [] := by simpa using unrestricting
      simp only [Field.compile, condition, listed]
      rfl
    · cases unrestricting
  · cases unrestricting

theorem compileReadings_cons_of_unrestricting (unrestricting : field.restricts value = false)
    (readings : List (Field × Except Failure Value)) :
    compileReadings ((field, .ok value) :: readings) = compileReadings readings := by
  simp only [compileReadings, ok_bind]
  split
  · rfl
  · rename_i given
    rw [compile_unrestricting (by simpa using given) unrestricting]
    cases compileReadings readings <;> rfl

theorem compileReadings_cons_of_compile {readings : List (Field × Except Failure Value)}
    {clause : Clause} {clauses : List Clause} (given : value.isAbsent = false)
    (compiles : field.compile value = .ok (some clause))
    (compiled : compileReadings readings = .ok clauses) :
    compileReadings ((field, .ok value) :: readings) = .ok (clause :: clauses) := by
  simp only [compileReadings, ok_bind, given, Bool.false_eq_true, if_false, compiles, compiled]
  rfl

theorem compileClauses_cons_of_apply {clauses : List Clause} {predicates : List Predicate}
    {operands : List Value} {predicate : Predicate}
    (column : model.column? field.target = some attr)
    (applies : Registry.standard.apply (.known field.condition) attr operands = .ok predicate)
    (compiled : Registry.standard.compileClauses model clauses = .ok predicates) :
    Registry.standard.compileClauses model (field.clause operands :: clauses) =
      .ok (predicate :: predicates) := by
  rw [Registry.compileClauses] at compiled ⊢
  rw [List.mapM_cons, compiled, Registry.compileClause, Model.resolve, Field.clause, column, ok_bind,
    applies]
  rfl

end Compile

theorem compileReadings_suiting {model : Model} {readings : List (Field × Except Failure Value)}
    {items : List (Field × Value)}
    (read : readings.mapM (fun reading => reading.2.map fun value => (reading.1, value)) = .ok items)
    (suits : ∀ item ∈ items, item.1.Suits model item.2) :
    ∃ clauses predicates, compileReadings readings = .ok clauses ∧
      Registry.standard.compileClauses model clauses = .ok predicates ∧
      (∀ row, Predicate.allHold predicates row = items.all fun item =>
        item.1.meets .byCell model row item.2) ∧
      ∀ predicate ∈ predicates, ∀ test ∈ predicate.alternatives,
        ∀ place ∈ Token.places (test.tokens (.adapter .sqlite) model), Bindable place := by
  induction readings generalizing items with
  | nil =>
      cases read
      exact ⟨[], [], rfl, rfl, fun _ => rfl, by simp⟩
  | cons reading readings ih =>
      obtain ⟨field, reading⟩ := reading
      rw [List.mapM_cons] at read
      obtain ⟨⟨_, value⟩, first, read⟩ := bind_eq_ok_iff.mp read
      obtain ⟨later, rest, same⟩ := bind_eq_ok_iff.mp read
      cases same
      obtain ⟨value, rfl, same⟩ := map_eq_ok_iff.mp first
      obtain ⟨rfl, rfl⟩ := Prod.mk.inj same
      obtain ⟨suitsFirst, suitsRest⟩ := List.forall_mem_cons.mp suits
      obtain ⟨clauses, predicates, compiled, predicated, holds, bindable⟩ := ih rest suitsRest
      -- A field that restricts nothing adds no clause, and the rows that meet it are all rows.
      cases restricts : field.restricts value with
      | false =>
          refine ⟨clauses, predicates, ?_, predicated, fun row => ?_, bindable⟩
          · rw [compileReadings_cons_of_unrestricting restricts, compiled]
          · rw [holds, List.all_cons, Field.meets, restricts]
            rfl
      | true =>
          obtain ⟨attr, column, suited⟩ := suitsFirst restricts
          obtain ⟨operands, predicate, compiles, applies,
            (expresses : predicate.Expresses model attr _)⟩ := compile_suiting restricts suited
          have given : value.isAbsent = false := by
            simpa using (Bool.and_eq_true_iff.mp restricts).1
          have target : attr.column = field.target := by simpa using List.find?_some column
          have meets (row : Row) : predicate.holds row = field.meets .byCell model row value := by
            rw [expresses.holds, Row.cell_eq_stored, target, Field.meets, restricts, column]
            rfl
          refine ⟨field.clause operands :: clauses, predicate :: predicates,
            compileReadings_cons_of_compile given compiles compiled,
            compileClauses_cons_of_apply column applies predicated, fun row => ?_,
            List.forall_mem_cons.mpr ⟨expresses.bindable, bindable⟩⟩
          rw [List.all_cons, ← holds, ← meets]
          rfl

end RecordStore
