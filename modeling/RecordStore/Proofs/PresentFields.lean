import RecordStore.Proofs.BoundTexts
import RecordStore.Proofs.FieldClauses
import RecordStore.Proofs.FilteredLists

/-!
Fields that are present in a filter. The operands of the clauses that a filter becomes are such that every
operator of the standard registry makes a predicate of them, unless one is a record of a model, and none of
these predicates is left out of a statement: each asks for a cell that is not null.
-/

namespace RecordStore

/-- The operands that the standard operators rely on: as many as a condition needs, a text for a pattern,
and no null or empty list where something is to be compared. -/
inductive Condition.Restricting : Condition → List Value → Prop
  | equality {value : Value} (given : value ≠ .null) : Restricting .equality [value]
  | like (pattern : String) : Restricting .like [.text pattern]
  | between (low high : Value) : Restricting .between [low, high]
  | or {items : List Value} (nonempty : items ≠ []) (given : ∀ item ∈ items, item ≠ .null) :
      Restricting .or items

theorem Test.holds_equals_null {attr : Attribute} {value : Value} {row : Row} (given : value ≠ .null)
    (isNull : row.cell attr = .null) : (equals attr value).holds row = false := by
  cases value with
  | null => exact absurd rfl given
  | _ => simp [equals, holds, related, isNull]

structure Predicate.Restricts (attr : Attribute) (predicate : Predicate) : Prop where
  kept : predicate.isVoid = false
  null : ∀ row : Row, row.cell attr = .null → predicate.holds row = false

theorem Predicate.restricts_ofTest {attr : Attribute} {test : Test}
    (null : ∀ row : Row, row.cell attr = .null → test.holds row = false) :
    (ofTest test).Restricts attr where
  kept := rfl
  null row isNull := (holds_ofTest test row).trans (null row isNull)

theorem Condition.Restricting.applies {condition : Condition} {operands : List Value}
    (restricting : condition.Restricting operands) (attr : Attribute)
    (comparable : operands.any Value.isRecord = false) :
    ∃ predicate, Registry.standard.apply (.known condition) attr operands = .ok predicate ∧
      predicate.Restricts attr := by
  cases restricting with
  | equality given =>
      rw [List.any_cons, List.any_nil, Bool.or_false] at comparable
      rw [Registry.apply_equality, comparable]
      exact ⟨_, rfl, Predicate.restricts_ofTest fun row => Test.holds_equals_null given⟩
  | like pattern =>
      refine ⟨_, rfl, Predicate.restricts_ofTest fun row isNull => ?_⟩
      simp [Test.holds, isNull, Cell.asText?]
  | between low high =>
      rw [List.any_cons, List.any_cons, List.any_nil, Bool.or_false] at comparable
      rw [Registry.apply_between, comparable]
      refine ⟨_, rfl, Predicate.restricts_ofTest fun row isNull => ?_⟩
      simp [Test.holds, Test.related, isNull]
  | or nonempty given =>
      rw [Registry.apply_or, comparable]
      refine ⟨_, rfl, ⟨?_, fun row isNull => ?_⟩⟩
      · simpa [Predicate.isVoid] using nonempty
      · have others : ∀ item ∈ operands, (Test.equals attr item).holds row = false :=
          fun item found => Test.holds_equals_null (given item found) isNull
        simpa [Predicate.holds, Predicate.isVoid, nonempty] using others

theorem Condition.Restricting.refused {condition : Condition} {operands : List Value}
    (restricting : condition.Restricting operands) (attr : Attribute)
    (record : operands.any Value.isRecord = true) :
    Registry.standard.apply (.known condition) attr operands = .error .recordOperand := by
  cases restricting with
  | equality given =>
      rw [List.any_cons, List.any_nil, Bool.or_false] at record
      rw [Registry.apply_equality, record]
      rfl
  | like pattern => cases record
  | between low high =>
      rw [List.any_cons, List.any_cons, List.any_nil, Bool.or_false] at record
      rw [Registry.apply_between, record]
      rfl
  | or nonempty given =>
      rw [Registry.apply_or, record]
      rfl

end RecordStore
