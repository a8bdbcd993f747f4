import Mathlib.Algebra.Order.Ring.Int
import Mathlib.Tactic.Linarith
import RecordStore.Proofs.ExactNumbers
import RecordStore.Proofs.Outcome
import RecordStore.Store.Query

/-!
The order of cells: numbers by value, texts and strings of bytes letter by letter, and cells of
different kinds by their kind. Cells are strictly ordered, where different cells may stand at the
same place.
-/

namespace RecordStore

/-- A strict order in which different things may stand at the same place. -/
structure WeakOrder {α : Type} (less : α → α → Bool) : Prop where
  asymm : ∀ {left right}, less left right = true → less right left = false
  between : ∀ {left right}, less left right = true → ∀ middle,
    less left middle = true ∨ less middle right = true

theorem WeakOrder.swap {α : Type} {less : α → α → Bool} (order : WeakOrder less) :
    WeakOrder fun left right => less right left where
  asymm before := order.asymm before
  between before middle := (order.between before middle).symm

theorem WeakOrder.onPart {α β : Type} {less : α → α → Bool} (order : WeakOrder less) (part : β → α) :
    WeakOrder fun left right => less (part left) (part right) where
  asymm before := order.asymm before
  between before middle := order.between before (part middle)

section Linear

variable {α : Type} [LT α] [LE α] [Std.IsLinearOrder α] [Std.LawfulOrderLT α] [DecidableLT α]

theorem weakOrder_lt : WeakOrder fun (left right : α) => decide (left < right) where
  asymm := by
    intro left right before
    simp only [decide_eq_true_eq, decide_eq_false_iff_not] at before ⊢
    exact fun after => Std.lt_irrefl (Std.lt_trans before after)
  between := by
    intro left right before middle
    simp only [decide_eq_true_eq] at before ⊢
    by_cases first : left < middle
    · exact .inl first
    · exact .inr (Std.lt_of_le_of_lt (Std.not_lt.mp first) before)

theorem decide_not_lt_iff {left right : α} :
    decide (left < right) = false ↔ decide (right < left) = true ∨ left = right := by
  rw [decide_eq_false_iff_not, decide_eq_true_eq, Std.not_lt, Std.le_iff_lt_or_eq, eq_comm]

end Linear

namespace ExactNumber

theorem less_asymm {left right : ExactNumber} (before : left.less right = true) :
    right.less left = false := by
  rcases left with _ | (_ | _) | ⟨top, bottom⟩ <;> rcases right with _ | (_ | _) | ⟨top', bottom'⟩ <;>
    simp only [less, decide_eq_true_eq, decide_eq_false_iff_not, Bool.false_eq_true] at before ⊢
  exact Int.not_lt.mpr before.le

theorem fraction_between {top bottom top' bottom' between unit : Int} (bottomPos : 0 < bottom)
    (bottomPos' : 0 < bottom') (unitPos : 0 < unit) (before : top * bottom' < top' * bottom) :
    top * unit < between * bottom ∨ between * bottom' < top' * unit := by
  by_contra neither
  obtain ⟨first, second⟩ := not_or.mp neither
  have low : between * bottom * bottom' ≤ top * unit * bottom' :=
    Int.mul_le_mul_of_nonneg_right (Int.not_lt.mp first) bottomPos'.le
  have high : top' * unit * bottom ≤ between * bottom' * bottom :=
    Int.mul_le_mul_of_nonneg_right (Int.not_lt.mp second) bottomPos.le
  have scaled : top * bottom' * unit < top' * bottom * unit := Int.mul_lt_mul_of_pos_right before unitPos
  linarith [mul_right_comm top unit bottom', mul_right_comm top' unit bottom,
    mul_right_comm between bottom bottom']

theorem less_between {left right middle : ExactNumber} (leftProper : left.IsProper)
    (rightProper : right.IsProper) (middleProper : middle.IsProper) (isNumber : middle ≠ .nan)
    (before : left.less right = true) : left.less middle = true ∨ middle.less right = true := by
  rcases left with _ | (_ | _) | ⟨top, bottom⟩ <;> rcases right with _ | (_ | _) | ⟨top', bottom'⟩ <;>
    simp only [less, decide_eq_true_eq, Bool.false_eq_true] at before <;>
    rcases middle with _ | (_ | _) | ⟨between, unit⟩ <;>
    simp only [less, decide_eq_true_eq, Bool.false_eq_true, or_true, true_or, or_self, or_false,
      ne_eq, not_true_eq_false] at isNumber ⊢
  exact fraction_between (by exact_mod_cast leftProper) (by exact_mod_cast rightProper)
    (by exact_mod_cast middleProper) before

theorem not_less_iff {left right : ExactNumber} (isNumber : left ≠ .nan) (isNumber' : right ≠ .nan) :
    left.less right = false ↔ right.less left = true ∨ left.equals right = true := by
  rcases left with _ | (_ | _) | ⟨top, bottom⟩ <;> rcases right with _ | (_ | _) | ⟨top', bottom'⟩ <;>
    simp only [less, equals, decide_eq_true_eq, decide_eq_false_iff_not, beq_iff_eq, ne_eq,
      not_true_eq_false, reduceCtorEq] at isNumber isNumber' ⊢
  all_goals first | omega | simp

end ExactNumber

namespace Cell

theorem number?_proper {cell : Cell} {number : ExactNumber} (isNumber : cell.number? = some number) :
    number.IsProper ∧ number ≠ .nan ∧ cell.rank = 1 := by
  rcases cell with _ | value | (_ | negative | ⟨negative, significand, exponent⟩) | text | bytes <;>
    simp only [number?, Option.some.injEq, reduceCtorEq] at isNumber <;> subst isNumber
  · exact ⟨ExactNumber.isProper_ofInt value, by simp [ExactNumber.ofInt], rfl⟩
  · exact ⟨ExactNumber.isProper_ofDouble _, by simp [ExactNumber.ofDouble, Double.toFraction?], rfl⟩
  · exact ⟨ExactNumber.isProper_ofDouble _, by simp [ExactNumber.ofDouble, Double.toFraction?], rfl⟩

theorem rank_of_number?_none {cell : Cell} (noNumber : cell.number? = none) : cell.rank ≠ 1 := by
  rcases cell with _ | value | (_ | negative | ⟨negative, significand, exponent⟩) | text | bytes <;>
    simp [number?, rank] at noNumber ⊢

theorem less_of_rank_ne {left right : Cell} (different : left.rank ≠ right.rank) :
    left.less right = decide (left.rank < right.rank) := by
  unfold less
  split
  · exact absurd rfl different
  · exact absurd rfl different
  · split
    · rename_i isLeft isRight
      exact absurd ((number?_proper isLeft).2.2.trans (number?_proper isRight).2.2.symm) different
    · rfl

theorem less_of_number? {left right : Cell} {number other : ExactNumber}
    (isLeft : left.number? = some number) (isRight : right.number? = some other) :
    left.less right = number.less other := by
  unfold less
  split
  · cases isLeft
  · cases isLeft
  · simp only [isLeft, isRight]

theorem rank_le_of_less {left right : Cell} (before : left.less right = true) :
    left.rank ≤ right.rank := by
  by_cases same : left.rank = right.rank
  · omega
  · rw [less_of_rank_ne same] at before
    simp only [decide_eq_true_eq] at before
    omega

theorem alike_of_less {left right : Cell} (same : left.rank = right.rank)
    (before : left.less right = true) :
    (∃ number other, left.number? = some number ∧ right.number? = some other ∧
        number.less other = true) ∨
      (∃ text other, left = .text text ∧ right = .text other) ∨
      ∃ bytes other, left = .blob bytes ∧ right = .blob other := by
  unfold less at before
  split at before
  · exact .inr (.inl ⟨_, _, rfl, rfl⟩)
  · exact .inr (.inr ⟨_, _, rfl, rfl⟩)
  · split at before
    · rename_i isLeft isRight
      exact .inl ⟨_, _, isLeft, isRight, before⟩
    · simp [same] at before

theorem text_of_rank {cell : Cell} (isText : cell.rank = 2) : ∃ text, cell = .text text := by
  rcases cell with _ | value | (_ | negative | ⟨negative, significand, exponent⟩) | text | bytes <;>
    simp [rank] at isText ⊢

theorem blob_of_rank {cell : Cell} (isBlob : cell.rank = 3) : ∃ bytes, cell = .blob bytes := by
  rcases cell with _ | value | (_ | negative | ⟨negative, significand, exponent⟩) | text | bytes <;>
    simp [rank] at isBlob ⊢

theorem less_between_of_rank {left right middle : Cell} (sameLeft : left.rank = middle.rank)
    (sameRight : middle.rank = right.rank) (before : left.less right = true) :
    left.less middle = true ∨ middle.less right = true := by
  rcases alike_of_less (sameLeft.trans sameRight) before with
    ⟨number, other, isLeft, isRight, less⟩ | ⟨text, other, rfl, rfl⟩ | ⟨bytes, other, rfl, rfl⟩
  · obtain ⟨leftProper, _, leftRank⟩ := number?_proper isLeft
    cases isMiddle : middle.number? with
    | none => exact absurd (sameLeft.symm.trans leftRank) (rank_of_number?_none isMiddle)
    | some between =>
        obtain ⟨properMiddle, notNan, _⟩ := number?_proper isMiddle
        rw [less_of_number? isLeft isMiddle, less_of_number? isMiddle isRight]
        exact ExactNumber.less_between leftProper (number?_proper isRight).1 properMiddle notNan less
  · obtain ⟨between, rfl⟩ := text_of_rank sameRight
    exact weakOrder_lt.between before between
  · obtain ⟨between, rfl⟩ := blob_of_rank sameRight
    exact weakOrder_lt.between before between

theorem less_asymm_of_rank {left right : Cell} (same : left.rank = right.rank)
    (before : left.less right = true) : right.less left = false := by
  rcases alike_of_less same before with
    ⟨number, other, isLeft, isRight, less⟩ | ⟨text, other, rfl, rfl⟩ | ⟨bytes, other, rfl, rfl⟩
  · rw [less_of_number? isRight isLeft]
    exact ExactNumber.less_asymm less
  · exact weakOrder_lt.asymm before
  · exact weakOrder_lt.asymm before

theorem same_of_number? {left right : Cell} {number other : ExactNumber}
    (isLeft : left.number? = some number) (isRight : right.number? = some other) :
    left.same right = number.equals other := by
  unfold same
  split
  · cases isLeft
  · cases isLeft
  · simp only [isLeft, isRight]

theorem rank_eq_of_same {left right : Cell} (alike : left.same right = true) :
    left.rank = right.rank := by
  unfold same at alike
  split at alike
  · rfl
  · rfl
  · split at alike
    · rename_i isLeft isRight
      exact (number?_proper isLeft).2.2.trans (number?_proper isRight).2.2.symm
    · simpa using alike

theorem same_comm (left right : Cell) : left.same right = right.same left := by
  rcases left with _ | _ | (_ | _ | _) | _ | _ <;> rcases right with _ | _ | (_ | _ | _) | _ | _ <;>
    first | rfl | exact ExactNumber.equals_comm _ _ | exact Bool.beq_comm

theorem not_less_iff_of_rank {left right : Cell} (alike : left.rank = right.rank) :
    left.less right = false ↔ right.less left = true ∨ left.same right = true := by
  cases isLeft : left.number? with
  | some number =>
      obtain ⟨_, isNumber, rank⟩ := number?_proper isLeft
      cases isRight : right.number? with
      | none => exact absurd (alike.symm.trans rank) (rank_of_number?_none isRight)
      | some other =>
          rw [less_of_number? isLeft isRight, less_of_number? isRight isLeft,
            same_of_number? isLeft isRight]
          exact ExactNumber.not_less_iff isNumber (number?_proper isRight).2.1
  | none =>
      rcases left with _ | _ | (_ | _ | _) | text | bytes <;>
        simp only [number?, reduceCtorEq] at isLeft
      case text =>
        obtain ⟨other, rfl⟩ := text_of_rank alike.symm
        simp only [less, same, beq_iff_eq]
        exact decide_not_lt_iff
      case blob =>
        obtain ⟨other, rfl⟩ := blob_of_rank alike.symm
        simp only [less, same, beq_iff_eq]
        exact decide_not_lt_iff
      all_goals
        rcases right with _ | _ | (_ | _ | _) | _ | _ <;>
          simp [rank, less, same, number?] at alike ⊢

theorem not_less_iff {left right : Cell} :
    left.less right = false ↔ right.less left = true ∨ left.same right = true := by
  by_cases alike : left.rank = right.rank
  · exact not_less_iff_of_rank alike
  · have apart : left.same right = false :=
      Bool.eq_false_iff.mpr fun same => alike (rank_eq_of_same same)
    rw [less_of_rank_ne alike, less_of_rank_ne (Ne.symm alike), apart]
    simp only [decide_eq_false_iff_not, decide_eq_true_eq, Bool.false_eq_true, or_false]
    omega

theorem weakOrder_less : WeakOrder less where
  asymm := by
    intro left right before
    by_cases same : left.rank = right.rank
    · exact less_asymm_of_rank same before
    · rw [less_of_rank_ne same, decide_eq_true_eq] at before
      rw [less_of_rank_ne (Ne.symm same), decide_eq_false_iff_not]
      omega
  between := by
    intro left right before middle
    have upwards := rank_le_of_less before
    by_cases sameLeft : left.rank = middle.rank
    · by_cases sameRight : middle.rank = right.rank
      · exact less_between_of_rank sameLeft sameRight before
      · right
        rw [less_of_rank_ne sameRight, decide_eq_true_eq]
        omega
    · by_cases below : left.rank < middle.rank
      · left
        rw [less_of_rank_ne sameLeft, decide_eq_true_eq]
        exact below
      · right
        rw [less_of_rank_ne (by omega), decide_eq_true_eq]
        omega

end Cell
end RecordStore
