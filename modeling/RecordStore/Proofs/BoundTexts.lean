import Mathlib.Algebra.Order.Ring.Int
import RecordStore.Proofs.Blanks
import RecordStore.Proofs.Outcome
import RecordStore.Model.Samples

/-!
Operands reach the store only as parameters. Clauses that agree in all but the operands they bind make
statements of one text; and a column is written only when it was found among the model's.
-/

namespace RecordStore

def Value.SameType (left right : Value) : Prop := left.ctorIdx = right.ctorIdx

/-- Two clauses agree in all but their operands. These are of the same types, and those that equality
writes as constants are the same. -/
structure Clause.Agrees (left right : Clause) : Prop where
  column : left.column = right.column
  key : left.key = right.key
  operands : List.Forall₂ Value.SameType left.operands right.operands
  constants : left.key = .known .equality ∨ left.key = .known .or →
    List.Forall₂ (fun operand other => Test.isConstant operand = true → operand = other)
      left.operands right.operands

namespace Test

variable {column : Attribute} {left right : Value}

theorem isConstant_iff (value : Value) : isConstant value = decide (value.ctorIdx < 2) := by
  cases value <;> rfl

theorem isConstant_congr (same : left.SameType right) : isConstant left = isConstant right := by
  rw [isConstant_iff, isConstant_iff, same]

theorem isRecord_congr (same : left.SameType right) : left.isRecord = right.isRecord := by
  have index (value : Value) : value.isRecord = decide (value.ctorIdx = 18) := by
    cases value <;> rfl
  rw [index, index, same]

theorem equals_of_not_isConstant (bound : isConstant left = false) :
    equals column left = .compare column .equal left := by
  cases left with
  | null => cases bound
  | boolean => cases bound
  | _ => rfl

theorem blank_equals (same : left.SameType right) (constant : isConstant left = true → left = right) :
    (equals column left).blank = (equals column right).blank := by
  cases written : isConstant left with
  | true => rw [constant written]
  | false =>
      rw [equals_of_not_isConstant written,
        equals_of_not_isConstant (isConstant_congr same ▸ written)]
      rfl

theorem map_blank_matching (same : left.SameType right) (lowered escaping : Bool) :
    (matching column lowered escaping left).map blank =
      (matching column lowered escaping right).map blank := by
  simp only [matching, isConstant_congr same]
  split
  · rfl
  · rfl

end Test

namespace Registry

theorem any_isRecord_congr {left right : List Value} (same : List.Forall₂ Value.SameType left right) :
    left.any Value.isRecord = right.any Value.isRecord := by
  induction same with
  | nil => rfl
  | cons first rest ih => rw [List.any_cons, List.any_cons, ih, Test.isRecord_congr first]

theorem map_blank_orList {column : Attribute} {left right : List Value}
    (same : List.Forall₂ Value.SameType left right)
    (constants : List.Forall₂ (fun operand other => Test.isConstant operand = true → operand = other)
      left right) :
    (left.map (Test.equals column)).map Test.blank =
      (right.map (Test.equals column)).map Test.blank := by
  induction same with
  | nil => rfl
  | cons first rest ih =>
      obtain ⟨constant, constants⟩ := List.forall₂_cons.mp constants
      rw [List.map_cons, List.map_cons, List.map_cons, List.map_cons, ih constants,
        Test.blank_equals first constant]

/-- The standard operators make predicates of operands that are the same but for their blanks, or
refuse the operands for the same reason. -/
theorem map_blank_apply {key : ConditionKey} {left right : List Value} (column : Attribute)
    (same : List.Forall₂ Value.SameType left right)
    (constants : key = .known .equality ∨ key = .known .or →
      List.Forall₂ (fun operand other => Test.isConstant operand = true → operand = other) left right) :
    (standard.apply key column left).map Predicate.blank =
      (standard.apply key column right).map Predicate.blank := by
  rcases key with (_ | _ | _ | _) | name
  · cases same with
    | nil => rfl
    | @cons operand other _ _ first rest =>
        obtain ⟨constant, _⟩ := List.forall₂_cons.mp (constants (.inl rfl))
        rw [apply_equality, apply_equality, Test.isRecord_congr first]
        split
        · rfl
        · simp only [Except.map, Predicate.blank, Predicate.ofTest, List.map_cons, List.map_nil,
            Test.blank_equals first constant]
  · cases same with
    | nil => rfl
    | @cons operand other _ _ first rest =>
        have blank (test : Except Failure Test) : (test.map Predicate.ofTest).map Predicate.blank =
            (test.map Test.blank).map Predicate.ofTest := by
          cases test <;> rfl
        rw [apply_like, apply_like, Test.isRecord_congr first]
        split
        · rfl
        · rw [blank, blank, Test.map_blank_matching first]
  · rcases same with _ | ⟨low, _ | ⟨high, rest⟩⟩
    · rfl
    · rfl
    · rw [apply_between, apply_between, Test.isRecord_congr low, Test.isRecord_congr high]
      split
      · rfl
      · rfl
  · rw [apply_or, apply_or, any_isRecord_congr same]
    split
    · rfl
    · simp only [Except.map, Predicate.blank, map_blank_orList same (constants (.inr rfl))]
  · rfl

variable (model : Model)

theorem map_blank_compileClause {left right : Clause} (agree : left.Agrees right) :
    (standard.compileClause model left).map Predicate.blank =
      (standard.compileClause model right).map Predicate.blank := by
  simp only [compileClause, ← agree.column, ← agree.key]
  cases model.resolve left.column with
  | error failure => rfl
  | ok column => exact map_blank_apply column agree.operands agree.constants

theorem map_blank_compileClauses {left right : List Clause}
    (agree : List.Forall₂ Clause.Agrees left right) :
    (standard.compileClauses model left).map (List.map Predicate.blank) =
      (standard.compileClauses model right).map (List.map Predicate.blank) := by
  induction agree with
  | nil => rfl
  | @cons clause other clauses others first rest ih =>
      simp only [compileClauses, List.mapM_cons] at ih ⊢
      rcases cases_of_map_eq (map_blank_compileClause model first) with
        ⟨failure, refused, refused'⟩ | ⟨predicate, predicate', compiled, compiled', same⟩
      · rw [refused, refused']
        rfl
      · rw [compiled, compiled', ok_bind, ok_bind]
        rcases cases_of_map_eq ih with
          ⟨failure, refused, refused'⟩ | ⟨predicates, predicates', compiled, compiled', sameRest⟩
        · rw [refused, refused']
          rfl
        · rw [compiled, compiled', ok_bind, ok_bind]
          show (Except.ok (predicate.blank :: predicates.map Predicate.blank) :
              Except Failure (List Predicate)) = .ok (predicate'.blank :: _)
          rw [same, sameRest]

end Registry

theorem map_positiveBound {bound other : Int} (same : 0 < bound ↔ 0 < other) :
    (positiveBound bound).map (fun _ => (1 : Int)) = (positiveBound other).map fun _ => 1 := by
  simp only [positiveBound, same]
  split
  · rfl
  · rfl

section TwoRuns

variable (model : Model) {left right : List Clause} (agree : List.Forall₂ Clause.Agrees left right)
include agree

theorem map_blank_buildCounting :
    (buildCounting .standard model left).map Counting.blank =
      (buildCounting .standard model right).map Counting.blank := by
  rcases cases_of_map_eq (Registry.map_blank_compileClauses model agree) with
    ⟨failure, refused, refused'⟩ | ⟨predicates, predicates', compiled, compiled', same⟩
  · rw [buildCounting, buildCounting, refused, refused']
  · rw [buildCounting, buildCounting, compiled, compiled']
    show (Except.ok ⟨model, predicates.map Predicate.blank⟩ : Except Failure Counting) = .ok ⟨model, _⟩
    rw [same]

theorem map_blank_buildSelection (terms : List SortTerm) {limit limit' offset offset' : Int}
    (limits : 0 < limit ↔ 0 < limit') (offsets : 0 < offset ↔ 0 < offset') :
    (buildSelection .standard model left terms limit offset).map Selection.blank =
      (buildSelection .standard model right terms limit' offset').map Selection.blank := by
  rcases cases_of_map_eq (Registry.map_blank_compileClauses model agree) with
    ⟨failure, refused, refused'⟩ | ⟨predicates, predicates', compiled, compiled', same⟩
  · rw [buildSelection, buildSelection, refused, refused']
    rfl
  · rw [buildSelection, buildSelection, compiled, compiled', ok_bind, ok_bind]
    cases SortTerm.resolve model terms with
    | error failure => rfl
    | ok order =>
        show (Except.ok (Selection.blank ⟨model, predicates, order, _, _⟩) :
          Except Failure Selection) = .ok (Selection.blank ⟨model, predicates', order, _, _⟩)
        simp only [Selection.blank, same, map_positiveBound limits, map_positiveBound offsets]

end TwoRuns

inductive Outcomes {α : Type} (Related : α → α → Prop) : Except Failure α → Except Failure α → Prop
  | error (failure : Failure) : Outcomes Related (.error failure) (.error failure)
  | ok {left right : α} (related : Related left right) : Outcomes Related (.ok left) (.ok right)

namespace Test

def column : Test → Attribute
  | .isNull column => column
  | .isNotNull column => column
  | .isTruth column _ => column
  | .isNotTruth column _ => column
  | .compare column _ _ => column
  | .like column _ _ _ => column
  | .between column _ _ => column

theorem column_equals (attr : Attribute) (operand : Value) : (equals attr operand).column = attr := by
  cases operand <;> rfl

end Test

def Predicate.IsOn (model : Model) (name : String) (predicate : Predicate) : Prop :=
  ∃ attr ∈ model.attributes, attr.column = name ∧
    ∀ test ∈ predicate.alternatives, test.column = attr

theorem Model.resolve_eq_ok {model : Model} {name : String} {attr : Attribute}
    (found : model.resolve name = .ok attr) : attr ∈ model.attributes ∧ attr.column = name := by
  unfold resolve at found
  split at found
  · rename_i known
    obtain rfl := Except.ok.inj found
    exact ⟨List.mem_of_find?_eq_some known, by simpa using List.find?_some known⟩
  · cases found

theorem Model.resolve_unknown {model : Model} {name : String}
    (unknown : ∀ attr ∈ model.attributes, attr.column ≠ name) :
    model.resolve name = .error (.unknownColumn model.name name) := by
  have missing : model.column? name = none := List.find?_eq_none.mpr (by simpa using unknown)
  rw [resolve, missing]

namespace Registry

theorem column_of_apply {key : ConditionKey} {attr : Attribute} {operands : List Value}
    {predicate : Predicate} (applied : standard.apply key attr operands = .ok predicate) :
    ∀ test ∈ predicate.alternatives, test.column = attr := by
  cases makes_of_apply applied with
  | equality => simp [Predicate.ofTest, Test.column_equals]
  | like => simp [Predicate.ofTest, Test.column]
  | between => simp [Predicate.ofTest, Test.column]
  | or => simp [Test.column_equals]

theorem isOn_of_compileClause {model : Model} {clause : Clause} {predicate : Predicate}
    (compiled : standard.compileClause model clause = .ok predicate) :
    predicate.IsOn model clause.column := by
  obtain ⟨attr, found, applied⟩ := bind_eq_ok_iff.mp compiled
  obtain ⟨listed, named⟩ := Model.resolve_eq_ok found
  exact ⟨attr, listed, named, column_of_apply applied⟩

theorem forall_isOn_of_compileClauses {model : Model} {clauses : List Clause}
    {predicates : List Predicate} (compiled : standard.compileClauses model clauses = .ok predicates) :
    List.Forall₂ (fun clause predicate => predicate.IsOn model clause.column) clauses predicates :=
  (mapM_eq_ok_iff.mp compiled).imp fun _ _ => isOn_of_compileClause

theorem compileClauses_unknown {registry : Registry} {model : Model} {before : List Clause} {clause : Clause}
    {predicates : List Predicate} (after : List Clause)
    (compiled : registry.compileClauses model before = .ok predicates)
    (unknown : ∀ attr ∈ model.attributes, attr.column ≠ clause.column) :
    registry.compileClauses model (before ++ clause :: after) =
      .error (.unknownColumn model.name clause.column) := by
  refine mapM_eq_error_iff.mpr ⟨before, clause, after, predicates, rfl, compiled, ?_⟩
  rw [compileClause, Model.resolve_unknown unknown, error_bind]

end Registry

namespace SortTerm

variable {model : Model} {order : List (Attribute × Option Direction)}

theorem forall_of_resolve {terms : List SortTerm} (resolved : resolve model terms = .ok order) :
    List.Forall₂ (fun term entry => entry.1 ∈ model.attributes ∧ entry.1.column = term.column)
      terms order := by
  refine (mapM_eq_ok_iff.mp resolved).imp fun term entry paired => ?_
  obtain ⟨attr, found, rfl⟩ := map_eq_ok_iff.mp paired
  exact Model.resolve_eq_ok found

theorem resolve_unknown {before after : List SortTerm} {term : SortTerm}
    (resolved : resolve model before = .ok order)
    (unknown : ∀ attr ∈ model.attributes, attr.column ≠ term.column) :
    resolve model (before ++ term :: after) = .error (.unknownColumn model.name term.column) := by
  refine mapM_eq_error_iff.mpr ⟨before, term, after, order, rfl, resolved, ?_⟩
  rw [Model.resolve_unknown unknown]
  rfl

end SortTerm

/-- Clauses that agree in all but the operands they bind make statements of one text, up to casts, or
are refused for one reason. In these texts are only columns of the model, each that of its clause or
term; the first other column is refused. -/
theorem operands_show_only_as_parameters (model : Model) {left right : List Clause}
    (agree : List.Forall₂ Clause.Agrees left right) (terms : List SortTerm)
    {limit limit' offset offset' : Int} (limits : 0 < limit ↔ 0 < limit')
    (offsets : 0 < offset ↔ 0 < offset') (dialect : Dialect) :
    Outcomes (fun selection other => SqlText.Alike dialect (selection.render dialect)
        (other.render dialect))
      (buildSelection .standard model left terms limit offset)
      (buildSelection .standard model right terms limit' offset') ∧
    Outcomes (fun counting other => SqlText.Alike dialect (counting.render dialect)
        (other.render dialect))
      (buildCounting .standard model left) (buildCounting .standard model right) ∧
    (∀ selection, buildSelection .standard model left terms limit offset = .ok selection →
      List.Forall₂ (fun clause predicate => predicate.IsOn model clause.column) left
        selection.predicates ∧
      List.Forall₂ (fun term entry => entry.1 ∈ model.attributes ∧ entry.1.column = term.column) terms
        selection.order) ∧
    (∀ counting, buildCounting .standard model left = .ok counting →
      List.Forall₂ (fun clause predicate => predicate.IsOn model clause.column) left
        counting.predicates) ∧
    (∀ before clause after predicates, left = before ++ clause :: after →
      Registry.standard.compileClauses model before = .ok predicates →
      (∀ attr ∈ model.attributes, attr.column ≠ clause.column) →
      buildSelection .standard model left terms limit offset =
          .error (.unknownColumn model.name clause.column) ∧
        buildCounting .standard model left = .error (.unknownColumn model.name clause.column)) ∧
    ∀ predicates before term after order,
      Registry.standard.compileClauses model left = .ok predicates →
      terms = before ++ term :: after → SortTerm.resolve model before = .ok order →
      (∀ attr ∈ model.attributes, attr.column ≠ term.column) →
      buildSelection .standard model left terms limit offset =
        .error (.unknownColumn model.name term.column) := by
  refine ⟨?_, ?_, fun selection built => ?_, fun counting built => ?_, ?_, ?_⟩
  · rcases cases_of_map_eq (map_blank_buildSelection model agree terms limits offsets) with
      ⟨failure, refused, refused'⟩ | ⟨selection, other, built, built', same⟩
    · rw [refused, refused']
      exact .error failure
    · rw [built, built']
      exact .ok (Selection.alike_render same dialect)
  · rcases cases_of_map_eq (map_blank_buildCounting model agree) with
      ⟨failure, refused, refused'⟩ | ⟨counting, other, built, built', same⟩
    · rw [refused, refused']
      exact .error failure
    · rw [built, built']
      exact .ok (Counting.alike_render same dialect)
  · obtain ⟨predicates, compiled, built⟩ := bind_eq_ok_iff.mp built
    obtain ⟨order, resolved, made⟩ := bind_eq_ok_iff.mp built
    obtain rfl := Except.ok.inj made
    exact ⟨Registry.forall_isOn_of_compileClauses compiled, SortTerm.forall_of_resolve resolved⟩
  · obtain ⟨predicates, compiled, made⟩ := bind_eq_ok_iff.mp built
    obtain rfl := Except.ok.inj made
    exact Registry.forall_isOn_of_compileClauses compiled
  · rintro before clause after predicates rfl compiled unknown
    have refused := Registry.compileClauses_unknown after compiled unknown
    constructor
    · rw [buildSelection, refused, error_bind]
    · rw [buildCounting, refused, error_bind]
  · rintro predicates before term after order compiled rfl resolved unknown
    rw [buildSelection, compiled, ok_bind, SortTerm.resolve_unknown resolved unknown, error_bind]

def harmlessClauses : List Clause := [
  ⟨"status", .known .or, [.text "new", .text "active"]⟩,
  ⟨"age", .known .between, [.integer 1, .integer 99]⟩]

def hostileClauses : List Clause := [
  ⟨"status", .known .or, [.text "new", .text "b'; DROP TABLE people --"]⟩,
  ⟨"age", .known .between, [.integer 1, .integer (2 ^ 40)]⟩]

theorem hostile_text_stays_out_of_the_statement : ∃ selection other,
    buildSelection .standard Samples.person harmlessClauses [⟨"age", none⟩] 10 0 = .ok selection ∧
    buildSelection .standard Samples.person hostileClauses [⟨"age", none⟩] 3 (-1) = .ok other ∧
    SqlText.Alike (.adapter .postgres) (selection.render (.adapter .postgres))
      (other.render (.adapter .postgres)) := by
  have agree : List.Forall₂ Clause.Agrees harmlessClauses hostileClauses := by
    refine .cons ⟨rfl, rfl, .cons rfl (.cons rfl .nil), fun _ => ?_⟩
      (.cons ⟨rfl, rfl, .cons rfl (.cons rfl .nil), ?_⟩ .nil)
    · exact .cons (fun constant => by cases constant) (.cons (fun constant => by cases constant) .nil)
    · rintro (different | different) <;> cases different
  have limits : (0 : Int) < 10 ↔ (0 : Int) < 3 := by decide
  have offsets : (0 : Int) < 0 ↔ (0 : Int) < -1 := by decide
  obtain ⟨selections, _⟩ := operands_show_only_as_parameters Samples.person agree
    [⟨"age", none⟩] limits offsets (.adapter .postgres)
  cases selections with
  | ok alike => exact ⟨_, _, rfl, rfl, alike⟩

end RecordStore
