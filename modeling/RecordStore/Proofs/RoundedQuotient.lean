import Mathlib.Algebra.Order.Field.Power
import Mathlib.Algebra.Order.Floor.Ring
import Mathlib.Data.Rat.Floor
import Mathlib.Tactic.FieldSimp
import Mathlib.Tactic.Linarith
import Mathlib.Tactic.Positivity
import Mathlib.Tactic.Ring
import RecordStore.Page

/-!
Rounded quotients as rational numbers. Rounding keeps a quotient within half a step of its grid;
where a count is at most `2 ^ 53`, this is too little to reach another integer, so that the ceiling of
the quotient survives it.
-/

namespace RecordStore
namespace Double

def magnitude (significand : Nat) (exponent : Int) : ℚ := significand * (2 : ℚ) ^ exponent

theorem scaleDown_pos (numerator : Nat) {denominator : Nat} (exponent : Int)
    (positive : 0 < denominator) :
    0 < (scaleDown numerator denominator exponent).2 := by
  simp only [scaleDown, Nat.pow_eq]
  split <;> positivity

theorem scaleDown_div (numerator denominator : Nat) (exponent : Int) :
    ((scaleDown numerator denominator exponent).1 : ℚ) /
        (scaleDown numerator denominator exponent).2 =
      (numerator : ℚ) / denominator * (2 : ℚ) ^ (-exponent) := by
  simp only [scaleDown, Nat.pow_eq]
  split
  · rename_i upward
    obtain ⟨steps, rfl⟩ := Int.eq_ofNat_of_zero_le upward
    simp only [Int.toNat_natCast, Nat.cast_mul, Nat.cast_pow, Nat.cast_ofNat, zpow_neg,
      zpow_natCast]
    rw [div_mul_eq_div_div, div_eq_mul_inv]
  · rename_i downward
    obtain ⟨steps, isSteps⟩ := Int.eq_ofNat_of_zero_le (by omega : 0 ≤ -exponent)
    simp [isSteps]
    ring

theorem nearestEven_distance (numerator : Nat) {denominator : Nat} (positive : 0 < denominator) :
    2 * numerator ≤ (2 * nearestEven numerator denominator + 1) * denominator ∧
      2 * nearestEven numerator denominator * denominator ≤ 2 * numerator + denominator := by
  have split := Nat.div_add_mod numerator denominator
  have below := Nat.mod_lt numerator positive
  simp only [nearestEven]
  generalize numerator / denominator = whole at split ⊢
  generalize numerator % denominator = rest at split below ⊢
  subst split
  split_ifs <;> constructor <;> nlinarith

theorem nearestEven_div_bounds (numerator : Nat) {denominator : Nat} (positive : 0 < denominator) :
    (numerator : ℚ) / denominator ≤ nearestEven numerator denominator + 1 / 2 ∧
      (nearestEven numerator denominator : ℚ) ≤ (numerator : ℚ) / denominator + 1 / 2 := by
  obtain ⟨upper, lower⟩ := nearestEven_distance numerator positive
  have denominatorPos : (0 : ℚ) < denominator := by exact_mod_cast positive
  have upper' : (2 : ℚ) * numerator ≤ (2 * nearestEven numerator denominator + 1) * denominator := by
    exact_mod_cast upper
  have lower' : (2 : ℚ) * nearestEven numerator denominator * denominator ≤
      2 * numerator + denominator := by
    exact_mod_cast lower
  constructor
  · rw [div_le_iff₀ denominatorPos]
    linarith
  · rw [← sub_le_iff_le_add, le_div_iff₀ denominatorPos]
    linarith

theorem log2_bounds {number : Nat} (positive : 0 < number) :
    (2 : ℚ) ^ (Nat.log2 number : Int) ≤ number ∧
      (number : ℚ) < (2 : ℚ) ^ ((Nat.log2 number : Int) + 1) := by
  constructor
  · rw [zpow_natCast]
    exact_mod_cast Nat.log2_self_le positive.ne'
  · rw [← Nat.cast_succ, zpow_natCast]
    exact_mod_cast Nat.lt_log2_self

theorem binaryMagnitude_bounds {numerator denominator : Nat} (numeratorPos : 0 < numerator)
    (denominatorPos : 0 < denominator) :
    (2 : ℚ) ^ binaryMagnitude numerator denominator ≤ (numerator : ℚ) / denominator ∧
      (numerator : ℚ) / denominator < (2 : ℚ) ^ (binaryMagnitude numerator denominator + 1) := by
  have denominatorPos' : (0 : ℚ) < denominator := by exact_mod_cast denominatorPos
  have two : (2 : ℚ) ≠ 0 := by norm_num
  obtain ⟨least, above⟩ := log2_bounds numeratorPos
  obtain ⟨least', above'⟩ := log2_bounds denominatorPos
  let estimate : Int := (Nat.log2 numerator : Int) - (Nat.log2 denominator : Int)
  have notBelow : (2 : ℚ) ^ (estimate - 1) ≤ (numerator : ℚ) / denominator := by
    rw [le_div_iff₀ denominatorPos']
    calc (2 : ℚ) ^ (estimate - 1) * denominator
        ≤ (2 : ℚ) ^ (estimate - 1) * (2 : ℚ) ^ ((Nat.log2 denominator : Int) + 1) := by gcongr
      _ = (2 : ℚ) ^ (Nat.log2 numerator : Int) := by
          rw [← zpow_add₀ two]
          congr 1
          omega
      _ ≤ numerator := least
  have notAbove : (numerator : ℚ) / denominator < (2 : ℚ) ^ (estimate + 1) := by
    rw [div_lt_iff₀ denominatorPos']
    calc (numerator : ℚ) < (2 : ℚ) ^ ((Nat.log2 numerator : Int) + 1) := above
      _ = (2 : ℚ) ^ (estimate + 1) * (2 : ℚ) ^ (Nat.log2 denominator : Int) := by
          rw [← zpow_add₀ two]
          congr 1
          omega
      _ ≤ (2 : ℚ) ^ (estimate + 1) * denominator := by gcongr
  have scaledPos : (0 : ℚ) < (scaleDown numerator denominator estimate).2 := by
    exact_mod_cast scaleDown_pos numerator estimate denominatorPos
  have ratio := scaleDown_div numerator denominator estimate
  have isOne : (2 : ℚ) ^ estimate * (2 : ℚ) ^ (-estimate) = 1 := by
    rw [← zpow_add₀ two, add_neg_cancel, zpow_zero]
  have inverse : (0 : ℚ) < (2 : ℚ) ^ (-estimate) := by positivity
  change (2 : ℚ) ^ (if (scaleDown numerator denominator estimate).1 <
      (scaleDown numerator denominator estimate).2 then estimate - 1 else estimate) ≤ _ ∧
    _ < (2 : ℚ) ^ ((if (scaleDown numerator denominator estimate).1 <
      (scaleDown numerator denominator estimate).2 then estimate - 1 else estimate) + 1)
  by_cases small : (scaleDown numerator denominator estimate).1 <
      (scaleDown numerator denominator estimate).2
  · have lessOne : ((scaleDown numerator denominator estimate).1 : ℚ) /
        (scaleDown numerator denominator estimate).2 < 1 := by
      rw [div_lt_one scaledPos]
      exact_mod_cast small
    rw [ratio, ← isOne] at lessOne
    simp only [small, if_true, sub_add_cancel]
    exact ⟨notBelow, lt_of_mul_lt_mul_right lessOne inverse.le⟩
  · have leastOne : 1 ≤ ((scaleDown numerator denominator estimate).1 : ℚ) /
        (scaleDown numerator denominator estimate).2 := by
      rw [one_le_div scaledPos]
      exact_mod_cast not_lt.mp small
    rw [ratio, ← isOne] at leastOne
    simp only [small, if_false]
    exact ⟨le_of_mul_le_mul_right leastOne inverse, notAbove⟩

def gridExponent (numerator denominator : Nat) : Int :=
  max leastExponent (binaryMagnitude numerator denominator - 52)

def gridPoint (numerator denominator : Nat) : Nat :=
  nearestEven (scaleDown numerator denominator (gridExponent numerator denominator)).1
    (scaleDown numerator denominator (gridExponent numerator denominator)).2

theorem magnitude_roundFraction (numerator denominator : Nat) :
    magnitude (roundFraction numerator denominator).1 (roundFraction numerator denominator).2 =
      magnitude (gridPoint numerator denominator) (gridExponent numerator denominator) := by
  change (let point := gridPoint numerator denominator
    let exponent := gridExponent numerator denominator
    magnitude (if point = significandBound then (significandBound / 2, exponent + 1)
      else (point, exponent)).1
      (if point = significandBound then (significandBound / 2, exponent + 1)
      else (point, exponent)).2 = magnitude point exponent)
  intro point exponent
  by_cases full : point = significandBound
  · simp only [full, if_true, magnitude, significandBound]
    rw [zpow_add_one₀ (by norm_num : (2 : ℚ) ≠ 0)]
    norm_num
    ring
  · simp only [full, if_false]

theorem snd_roundFraction_eq (numerator denominator : Nat) :
    (roundFraction numerator denominator).2 =
      if gridPoint numerator denominator = significandBound then gridExponent numerator denominator + 1
      else gridExponent numerator denominator := by
  change (if gridPoint numerator denominator = significandBound then
    (significandBound / 2, gridExponent numerator denominator + 1)
    else (gridPoint numerator denominator, gridExponent numerator denominator)).2 = _
  split <;> rfl

theorem ceil?_finite (significand : Nat) (exponent : Int) :
    ceil? (.finite false significand exponent) = some ⌈magnitude significand exponent⌉ := by
  have ratio := scaleDown_div significand 1 (-exponent)
  rw [Nat.cast_one, div_one, neg_neg] at ratio
  have ceiling := Rat.ceil_intCast_div_natCast
    ((scaleDown significand 1 (-exponent)).1 : Int) (scaleDown significand 1 (-exponent)).2
  rw [Int.cast_natCast, ratio] at ceiling
  simp only [ceil?, toFraction?, Bool.false_eq_true, if_false, Option.map_some, ceilFraction,
    magnitude, ceiling]

/-- Rounding to a grid of steps below one does not carry a fraction of at most `2 ^ 53` to or past
an integer that it lies between. -/
theorem nearestEven_between {total rows steps : Nat} {pages : Int} (rowsPos : 0 < rows)
    (small : total ≤ 2 ^ 53) (pagesPos : 0 < pages)
    (full : 2 ^ 52 ≤ nearestEven (total * 2 ^ steps) rows)
    (above : (pages - 1) * rows < total) (below : (total : Int) ≤ pages * rows) :
    (pages - 1) * 2 ^ steps < (nearestEven (total * 2 ^ steps) rows : Int) ∧
      (nearestEven (total * 2 ^ steps) rows : Int) ≤ pages * 2 ^ steps := by
  obtain ⟨upper, lower⟩ := nearestEven_distance (total * 2 ^ steps) rowsPos
  generalize nearestEven (total * 2 ^ steps) rows = point at full upper lower
  have scale : (0 : Int) < 2 ^ steps := by positivity
  have rowsPos' : (0 : Int) < rows := by exact_mod_cast rowsPos
  have full' : (2 : Int) ^ 52 ≤ point := by exact_mod_cast full
  have small' : (total : Int) ≤ 2 ^ 53 := by exact_mod_cast small
  have upper' : 2 * ((total : Int) * 2 ^ steps) ≤ (2 * point + 1) * rows := by exact_mod_cast upper
  have lower' : 2 * (point : Int) * rows ≤ 2 * (total * 2 ^ steps) + rows := by
    exact_mod_cast lower
  constructor
  · by_contra reached
    have reached' : (point : Int) ≤ (pages - 1) * 2 ^ steps := not_lt.mp reached
    have wide : 2 * (2 : Int) ^ steps ≤ rows := by
      have least : ((pages - 1) * rows + 1) * 2 ^ steps ≤ (total : Int) * 2 ^ steps := by
        gcongr
        omega
      nlinarith
    have many : 2 * point ≤ (pages - 1) * rows := by
      calc 2 * (point : Int) ≤ (pages - 1) * (2 * 2 ^ steps) := by linarith
        _ ≤ (pages - 1) * rows := by
          gcongr
          omega
    omega
  · by_contra passed
    have passed' : pages * 2 ^ steps + 1 ≤ (point : Int) := not_le.mp passed
    have most : (total : Int) * 2 ^ steps ≤ pages * rows * 2 ^ steps := by gcongr
    nlinarith

theorem gridExponent_bounds {total rows : Nat} (totalPos : 0 < total) (rowsPos : 0 < rows)
    (small : total ≤ 2 ^ 53) (bounded : rows < 2 ^ 63) :
    gridExponent total rows = binaryMagnitude total rows - 52 ∧ gridExponent total rows ≤ 1 := by
  have rowsPos' : (0 : ℚ) < rows := by exact_mod_cast rowsPos
  obtain ⟨least, above⟩ := binaryMagnitude_bounds totalPos rowsPos
  have notTiny : (2 : ℚ) ^ (-63 : Int) < (2 : ℚ) ^ (binaryMagnitude total rows + 1) := by
    refine lt_trans ?_ above
    rw [lt_div_iff₀ rowsPos', zpow_neg, inv_mul_lt_iff₀ (by positivity)]
    have one : (1 : ℚ) ≤ total := by exact_mod_cast totalPos
    have bounded' : (rows : ℚ) < 2 ^ 63 := by exact_mod_cast bounded
    calc (rows : ℚ) < 2 ^ 63 := bounded'
      _ ≤ (2 : ℚ) ^ (63 : Int) * total := by
          rw [zpow_ofNat]
          linarith
  have notHuge : (2 : ℚ) ^ binaryMagnitude total rows ≤ (2 : ℚ) ^ (53 : Int) := by
    refine least.trans ?_
    have one : (1 : ℚ) ≤ rows := by exact_mod_cast rowsPos
    have small' : (total : ℚ) ≤ 2 ^ 53 := by exact_mod_cast small
    rw [div_le_iff₀ rowsPos', zpow_ofNat]
    linarith
  have low := (zpow_lt_zpow_iff_right₀ (by norm_num : (1 : ℚ) < 2)).mp notTiny
  have high := (zpow_le_zpow_iff_right₀ (by norm_num : (1 : ℚ) < 2)).mp notHuge
  simp only [gridExponent, leastExponent]
  omega

theorem le_gridPoint {numerator denominator : Nat} (numeratorPos : 0 < numerator)
    (denominatorPos : 0 < denominator)
    (normal : gridExponent numerator denominator = binaryMagnitude numerator denominator - 52) :
    2 ^ 52 ≤ gridPoint numerator denominator := by
  obtain ⟨least, _⟩ := binaryMagnitude_bounds numeratorPos denominatorPos
  have near := (nearestEven_div_bounds
    (scaleDown numerator denominator (gridExponent numerator denominator)).1
    (scaleDown_pos numerator (gridExponent numerator denominator) denominatorPos)).1
  rw [scaleDown_div] at near
  have scaled : (2 : ℚ) ^ 52 ≤
      (numerator : ℚ) / denominator * (2 : ℚ) ^ (-gridExponent numerator denominator) := by
    have split : (2 : ℚ) ^ 52 = (2 : ℚ) ^ binaryMagnitude numerator denominator *
        (2 : ℚ) ^ (-gridExponent numerator denominator) := by
      rw [← zpow_add₀ (by norm_num : (2 : ℚ) ≠ 0), normal, ← zpow_natCast]
      congr 1
      omega
    rw [split]
    gcongr
  by_contra short
  have short' : (gridPoint numerator denominator : ℚ) ≤ 2 ^ 52 - 1 := by
    rw [le_sub_iff_add_le]
    exact_mod_cast Nat.succ_le_of_lt (not_le.mp short)
  rw [gridPoint] at short'
  linarith

theorem gridPoint_eq {numerator denominator steps : Nat}
    (fine : gridExponent numerator denominator = -(steps : Int)) :
    gridPoint numerator denominator = nearestEven (numerator * 2 ^ steps) denominator := by
  simp only [gridPoint, fine, scaleDown, Nat.pow_eq]
  split
  · rename_i whole
    have none : steps = 0 := by omega
    simp [none]
  · simp

/-- The ceiling of a quotient of a count of at most `2 ^ 53` survives rounding. -/
theorem ceil_roundFraction {total rows : Nat} (totalPos : 0 < total) (rowsPos : 0 < rows)
    (small : total ≤ 2 ^ 53) (bounded : rows < 2 ^ 63) :
    ⌈magnitude (roundFraction total rows).1 (roundFraction total rows).2⌉ =
      ⌈(total : ℚ) / rows⌉ := by
  have rowsPos' : (0 : ℚ) < rows := by exact_mod_cast rowsPos
  obtain ⟨normal, coarsest⟩ := gridExponent_bounds totalPos rowsPos small bounded
  have full := le_gridPoint totalPos rowsPos normal
  rw [magnitude_roundFraction]
  by_cases fine : gridExponent total rows ≤ 0
  · obtain ⟨steps, isSteps⟩ := Int.eq_ofNat_of_zero_le (by omega : 0 ≤ -gridExponent total rows)
    have exponent : gridExponent total rows = -(steps : Int) := by omega
    rw [gridPoint_eq exponent] at full ⊢
    generalize isPages : ⌈(total : ℚ) / rows⌉ = pages
    obtain ⟨above, below⟩ := Int.ceil_eq_iff.mp isPages
    rw [lt_div_iff₀ rowsPos'] at above
    rw [div_le_iff₀ rowsPos'] at below
    have pagesPos : 0 < pages := by
      rw [← isPages, Int.ceil_pos]
      positivity
    obtain ⟨greater, smaller⟩ := nearestEven_between rowsPos small pagesPos full
      (by exact_mod_cast above) (by exact_mod_cast below)
    rw [Int.ceil_eq_iff, exponent, magnitude, zpow_neg, zpow_natCast, ← div_eq_mul_inv,
      lt_div_iff₀ (by positivity), div_le_iff₀ (by positivity)]
    constructor
    · exact_mod_cast greater
    · exact_mod_cast smaller
  · have large : (2 : ℚ) ^ (53 : Int) ≤ (total : ℚ) / rows := by
      have magnitudeIs : binaryMagnitude total rows = 53 := by omega
      rw [← magnitudeIs]
      exact (binaryMagnitude_bounds totalPos rowsPos).1
    rw [le_div_iff₀ rowsPos', zpow_ofNat] at large
    have product : 2 ^ 53 * rows ≤ total := by exact_mod_cast large
    obtain rfl : rows = 1 := by omega
    obtain rfl : total = 2 ^ 53 := by omega
    have point : gridPoint (2 ^ 53) 1 = 2 ^ 52 := by decide +kernel
    have exponent : gridExponent (2 ^ 53) 1 = 1 := by decide +kernel
    rw [point, exponent, magnitude]
    norm_num

end Double
end RecordStore
