import RecordStore.Proofs.RoundedQuotient

/-!
The order of rounded quotients. Rounding keeps the order of quotients, also across grids of different
steps; a quotient has no rounding exactly from `2 ^ 1024 - 2 ^ 970` on, which lies halfway between the
greatest number and the one that would come next.
-/

namespace RecordStore
namespace Double

theorem nearestEven_mod_two_of_middle (numerator : Nat) {denominator : Nat} (positive : 0 < denominator)
    (middle : (numerator : ℚ) / denominator = nearestEven numerator denominator + 1 / 2 ∨
      (numerator : ℚ) / denominator = nearestEven numerator denominator - 1 / 2) :
    nearestEven numerator denominator % 2 = 0 := by
  have denominatorPos : (denominator : ℚ) ≠ 0 := by exact_mod_cast positive.ne'
  have tie : 2 * numerator = (2 * nearestEven numerator denominator + 1) * denominator ∨
      2 * numerator + denominator = 2 * nearestEven numerator denominator * denominator := by
    refine middle.imp (fun above => ?_) fun below => ?_
    · rw [div_eq_iff denominatorPos] at above
      have same : (2 : ℚ) * numerator = (2 * nearestEven numerator denominator + 1) * denominator := by
        rw [above]
        ring
      exact_mod_cast same
    · rw [div_eq_iff denominatorPos] at below
      have same : (2 : ℚ) * numerator + denominator =
          2 * nearestEven numerator denominator * denominator := by
        rw [below]
        ring
      exact_mod_cast same
  have split := Nat.div_add_mod numerator denominator
  have small := Nat.mod_lt numerator positive
  simp only [nearestEven] at tie ⊢
  generalize numerator / denominator = whole at split tie ⊢
  generalize numerator % denominator = rest at split small tie ⊢
  subst split
  split_ifs at tie ⊢ with nearer farther even
  · rcases tie with tie | tie <;> nlinarith
  · rcases tie with tie | tie <;> nlinarith
  · exact even
  · omega

theorem nearestEven_mono {numerator denominator numerator' denominator' : Nat}
    (positive : 0 < denominator) (positive' : 0 < denominator')
    (ordered : (numerator : ℚ) / denominator ≤ (numerator' : ℚ) / denominator') :
    nearestEven numerator denominator ≤ nearestEven numerator' denominator' := by
  by_contra! crossed
  have lower := (nearestEven_div_bounds numerator positive).2
  have upper := (nearestEven_div_bounds numerator' positive').1
  have apart : (nearestEven numerator' denominator' : ℚ) + 1 ≤ nearestEven numerator denominator := by
    exact_mod_cast crossed
  -- Both fractions are in the middle between two neighbours, and each would go to the even one.
  have even := nearestEven_mod_two_of_middle numerator positive (.inr (by linarith))
  have even' := nearestEven_mod_two_of_middle numerator' positive' (.inl (by linarith))
  have neighbours : nearestEven numerator denominator = nearestEven numerator' denominator' + 1 := by
    have same : (nearestEven numerator denominator : ℚ) =
        nearestEven numerator' denominator' + 1 := by linarith
    exact_mod_cast same
  omega

theorem le_nearestEven_iff (numerator : Nat) {denominator bound : Nat} (positive : 0 < denominator)
    (even : bound % 2 = 0) :
    bound ≤ nearestEven numerator denominator ↔ (bound : ℚ) - 1 / 2 ≤ (numerator : ℚ) / denominator := by
  obtain ⟨upper, lower⟩ := nearestEven_div_bounds numerator positive
  constructor
  · intro reached
    have reached' : (bound : ℚ) ≤ nearestEven numerator denominator := by exact_mod_cast reached
    linarith
  · intro near
    by_contra! short
    have short' : (nearestEven numerator denominator : ℚ) + 1 ≤ bound := by exact_mod_cast short
    have evenToo := nearestEven_mod_two_of_middle numerator positive (.inl (by linarith))
    have neighbours : nearestEven numerator denominator + 1 = bound := by
      have same : (nearestEven numerator denominator : ℚ) + 1 = bound := by linarith
      exact_mod_cast same
    omega

section Grid

variable {numerator denominator : Nat} (numeratorPos : 0 < numerator)
  (denominatorPos : 0 < denominator)
include numeratorPos denominatorPos

theorem fraction_lt_grid : (numerator : ℚ) / denominator <
    (2 : ℚ) ^ (53 : Int) * (2 : ℚ) ^ gridExponent numerator denominator := by
  refine lt_of_lt_of_le (binaryMagnitude_bounds numeratorPos denominatorPos).2 ?_
  rw [← zpow_add₀ (by norm_num : (2 : ℚ) ≠ 0)]
  refine zpow_le_zpow_right₀ (by norm_num) ?_
  simp only [gridExponent]
  omega

theorem scaled_lt : ((scaleDown numerator denominator (gridExponent numerator denominator)).1 : ℚ) /
    (scaleDown numerator denominator (gridExponent numerator denominator)).2 < 2 ^ 53 := by
  rw [scaleDown_div, zpow_neg, ← div_eq_mul_inv, div_lt_iff₀ (by positivity)]
  exact_mod_cast fraction_lt_grid numeratorPos denominatorPos

theorem gridPoint_le : gridPoint numerator denominator ≤ significandBound := by
  have near := (nearestEven_div_bounds
    (scaleDown numerator denominator (gridExponent numerator denominator)).1
    (scaleDown_pos numerator (gridExponent numerator denominator) denominatorPos)).2
  have small := scaled_lt numeratorPos denominatorPos
  by_contra! large
  have large' : (2 : ℚ) ^ 53 + 1 ≤ gridPoint numerator denominator := by
    have bound : (2 : Nat) ^ 53 + 1 ≤ gridPoint numerator denominator := large
    exact_mod_cast bound
  rw [gridPoint] at large'
  linarith

end Grid

variable {numerator denominator numerator' denominator' : Nat}

theorem gridExponent_mono (numeratorPos : 0 < numerator) (denominatorPos : 0 < denominator)
    (numeratorPos' : 0 < numerator') (denominatorPos' : 0 < denominator')
    (ordered : (numerator : ℚ) / denominator ≤ (numerator' : ℚ) / denominator') :
    gridExponent numerator denominator ≤ gridExponent numerator' denominator' := by
  have least := (binaryMagnitude_bounds numeratorPos denominatorPos).1
  have above := (binaryMagnitude_bounds numeratorPos' denominatorPos').2
  have between := (zpow_lt_zpow_iff_right₀ (by norm_num : (1 : ℚ) < 2)).mp
    (least.trans_lt (ordered.trans_lt above))
  simp only [gridExponent]
  omega

theorem magnitude_gridPoint_mono (numeratorPos : 0 < numerator) (denominatorPos : 0 < denominator)
    (numeratorPos' : 0 < numerator') (denominatorPos' : 0 < denominator')
    (ordered : (numerator : ℚ) / denominator ≤ (numerator' : ℚ) / denominator') :
    magnitude (gridPoint numerator denominator) (gridExponent numerator denominator) ≤
      magnitude (gridPoint numerator' denominator') (gridExponent numerator' denominator') := by
  have coarser := gridExponent_mono numeratorPos denominatorPos numeratorPos' denominatorPos' ordered
  simp only [magnitude]
  rcases coarser.eq_or_lt with same | finer
  · have points : gridPoint numerator denominator ≤ gridPoint numerator' denominator' := by
      refine nearestEven_mono (scaleDown_pos _ _ denominatorPos) (scaleDown_pos _ _ denominatorPos') ?_
      rw [scaleDown_div, scaleDown_div, same]
      gcongr
    rw [same]
    gcongr
  · -- The finer grid ends where the coarser one has its least point above the subnormal ones.
    have normal : gridExponent numerator' denominator' =
        binaryMagnitude numerator' denominator' - 52 := by
      have least : leastExponent ≤ gridExponent numerator denominator := le_max_left _ _
      simp only [gridExponent] at least finer ⊢
      omega
    have point : (gridPoint numerator denominator : ℚ) ≤ 2 ^ (53 : Int) := by
      exact_mod_cast gridPoint_le numeratorPos denominatorPos
    have point' : (2 : ℚ) ^ (52 : Int) ≤ gridPoint numerator' denominator' := by
      exact_mod_cast le_gridPoint numeratorPos' denominatorPos' normal
    calc (gridPoint numerator denominator : ℚ) * 2 ^ gridExponent numerator denominator
        ≤ 2 ^ (53 : Int) * 2 ^ gridExponent numerator denominator := by gcongr
      _ = 2 ^ (53 + gridExponent numerator denominator) :=
          (zpow_add₀ (by norm_num : (2 : ℚ) ≠ 0) _ _).symm
      _ ≤ 2 ^ (52 + gridExponent numerator' denominator') :=
          zpow_le_zpow_right₀ (by norm_num) (by omega)
      _ = 2 ^ (52 : Int) * 2 ^ gridExponent numerator' denominator' :=
          zpow_add₀ (by norm_num : (2 : ℚ) ≠ 0) _ _
      _ ≤ gridPoint numerator' denominator' * 2 ^ gridExponent numerator' denominator' := by gcongr

/-- From this fraction on, rounding gives no number. -/
def overflowThreshold : ℚ := 2 ^ 1024 - 2 ^ 970

theorem overflowThreshold_eq :
    overflowThreshold = (2 ^ 53 - 1 / 2) * (2 : ℚ) ^ greatestExponent := by
  have whole : (2 : ℚ) ^ 1024 = 2 ^ 54 * 2 ^ 970 := by rw [← pow_add]
  have step : (2 : ℚ) ^ greatestExponent = 2 ^ 970 * 2 := by
    rw [show greatestExponent = (970 : Int) + 1 from rfl, zpow_add_one₀ (by norm_num), zpow_ofNat]
  rw [overflowThreshold, whole, step]
  generalize (2 : ℚ) ^ 970 = half
  ring

theorem gridPoint_eq_bound_iff (numeratorPos : 0 < numerator) (denominatorPos : 0 < denominator) :
    gridPoint numerator denominator = significandBound ↔
      (2 ^ 53 - 1 / 2) * (2 : ℚ) ^ gridExponent numerator denominator ≤
        (numerator : ℚ) / denominator := by
  have positive := scaleDown_pos numerator (gridExponent numerator denominator) denominatorPos
  have most := gridPoint_le numeratorPos denominatorPos
  have even : significandBound % 2 = 0 := by decide
  have bound : (significandBound : ℚ) = 2 ^ 53 := by norm_num [significandBound]
  rw [eq_iff_le_not_lt, not_lt, and_iff_right most, gridPoint, le_nearestEven_iff _ positive even,
    scaleDown_div, bound, zpow_neg, ← div_eq_mul_inv, le_div_iff₀ (by positivity)]

theorem two_pow_lt_overflowThreshold : (2 : ℚ) ^ 53 < overflowThreshold := by
  have step : (2 : ℚ) ^ (1 : Int) ≤ 2 ^ greatestExponent :=
    zpow_le_zpow_right₀ (by norm_num) (by decide)
  rw [zpow_one] at step
  rw [overflowThreshold_eq]
  linarith

theorem overflows_iff (numeratorPos : 0 < numerator) (denominatorPos : 0 < denominator) :
    greatestExponent < (roundFraction numerator denominator).2 ↔
      overflowThreshold ≤ (numerator : ℚ) / denominator := by
  have full := gridPoint_eq_bound_iff numeratorPos denominatorPos
  have step : (0 : ℚ) < 2 ^ greatestExponent := by positivity
  rw [snd_roundFraction_eq, overflowThreshold_eq]
  rcases lt_trichotomy (gridExponent numerator denominator) greatestExponent with
    finer | greatest | coarser
  · -- The next grid would still be one of the given numbers.
    refine iff_of_false ?_ ?_
    · split_ifs <;> omega
    · have below := fraction_lt_grid numeratorPos denominatorPos
      have half : (2 : ℚ) ^ gridExponent numerator denominator * 2 ≤ 2 ^ greatestExponent := by
        rw [← zpow_add_one₀ (by norm_num : (2 : ℚ) ≠ 0)]
        exact zpow_le_zpow_right₀ (by norm_num) (by omega)
      rw [zpow_ofNat] at below
      linarith
  · rw [greatest] at full ⊢
    rw [← full]
    split_ifs with isFull <;> simp [isFull]
  · refine iff_of_true ?_ ?_
    · split_ifs <;> omega
    · have normal : binaryMagnitude numerator denominator = gridExponent numerator denominator + 52 := by
        simp only [gridExponent, leastExponent, greatestExponent] at coarser ⊢
        omega
      have least := (binaryMagnitude_bounds numeratorPos denominatorPos).1
      have next : (2 : ℚ) ^ greatestExponent * 2 ^ 53 ≤ 2 ^ binaryMagnitude numerator denominator := by
        rw [← zpow_natCast, ← zpow_add₀ (by norm_num : (2 : ℚ) ≠ 0)]
        refine zpow_le_zpow_right₀ (by norm_num) ?_
        rw [normal]
        omega
      linarith

def roundedQuotient (total rows : Nat) : ℚ :=
  if total = 0 then 0 else magnitude (gridPoint total rows) (gridExponent total rows)

theorem roundedQuotient_nonneg (total rows : Nat) : 0 ≤ roundedQuotient total rows := by
  unfold roundedQuotient magnitude
  split <;> positivity

theorem roundedQuotient_mono {total rows total' rows' : Nat} (rowsPos : 0 < rows) (rowsPos' : 0 < rows')
    (ordered : (total : ℚ) / rows ≤ (total' : ℚ) / rows') :
    roundedQuotient total rows ≤ roundedQuotient total' rows' := by
  by_cases empty : total = 0
  · rw [roundedQuotient, if_pos empty]
    exact roundedQuotient_nonneg total' rows'
  · have totalPos := Nat.pos_of_ne_zero empty
    have quotientPos : (0 : ℚ) < (total' : ℚ) / rows' := lt_of_lt_of_le (by positivity) ordered
    have totalPos' : 0 < total' := by
      refine Nat.pos_of_ne_zero fun empty' => ?_
      simp [empty'] at quotientPos
    rw [roundedQuotient, if_neg empty, roundedQuotient, if_neg totalPos'.ne']
    exact magnitude_gridPoint_mono totalPos rowsPos totalPos' rowsPos' ordered

theorem ceil_roundedQuotient {total rows : Nat} (rowsPos : 0 < rows) (small : total ≤ 2 ^ 53)
    (bounded : rows < 2 ^ 63) : ⌈roundedQuotient total rows⌉ = ⌈(total : ℚ) / rows⌉ := by
  by_cases empty : total = 0
  · simp [roundedQuotient, empty]
  · rw [roundedQuotient, if_neg empty, ← magnitude_roundFraction]
    exact ceil_roundFraction (Nat.pos_of_ne_zero empty) rowsPos small bounded

theorem ceil?_ofQuotient? (total : Nat) {rows : Nat} (rowsPos : 0 < rows) :
    (ofQuotient? false total rows).bind ceil? =
      if overflowThreshold ≤ (total : ℚ) / rows then none else some ⌈roundedQuotient total rows⌉ := by
  by_cases empty : total = 0
  · have inRange : ¬overflowThreshold ≤ ((0 : Nat) : ℚ) / rows := by
      rw [Nat.cast_zero, zero_div, not_le]
      exact lt_trans (by positivity) two_pow_lt_overflowThreshold
    rw [empty, if_neg inRange]
    show ceil? (.finite false 0 leastExponent) = _
    simp [ceil?_finite, magnitude, roundedQuotient]
  · have overflows := overflows_iff (Nat.pos_of_ne_zero empty) rowsPos
    simp only [ofQuotient?, empty, if_false, overflows]
    split
    · rfl
    · rw [Option.bind_some, ceil?_finite, magnitude_roundFraction, roundedQuotient, if_neg empty]

end Double

theorem lastPage_eq (total : Nat) {rows : Int} (rowsPos : 0 < rows) :
    lastPage total rows =
      if Double.overflowThreshold ≤ (total : ℚ) / rows then .error .quotientTooLarge
      else .ok ⌈Double.roundedQuotient total rows.toNat⌉ := by
  obtain ⟨count, rfl⟩ := Int.eq_ofNat_of_zero_le rowsPos.le
  have notNegative : decide ((total : Int) < 0) = false := by simp
  simp only [lastPage, roundedQuotient?, notNegative, Int.natAbs_natCast, Int.toNat_natCast,
    Int.cast_natCast, Double.ceil?_ofQuotient? total (Int.natCast_pos.mp rowsPos)]
  split_ifs <;> rfl

/-- The number of the last page of a list of at most `2 ^ 53` records is the exact ceiling of the
quotient, although the quotient is rounded. -/
theorem lastPage_eq_ceil {total : Nat} {rows : Int} (small : total ≤ 2 ^ 53) (rowsPos : 0 < rows)
    (bounded : rows < 2 ^ 63) : lastPage total rows = .ok ⌈(total : ℚ) / rows⌉ := by
  have inRange : ¬Double.overflowThreshold ≤ (total : ℚ) / rows := by
    have one : (1 : ℚ) ≤ rows := by exact_mod_cast rowsPos
    have small' : (total : ℚ) ≤ 2 ^ 53 := by exact_mod_cast small
    rw [not_le]
    calc (total : ℚ) / rows ≤ total := div_le_self (by positivity) one
      _ ≤ 2 ^ 53 := small'
      _ < Double.overflowThreshold := Double.two_pow_lt_overflowThreshold
  rw [lastPage_eq total rowsPos, if_neg inRange]
  obtain ⟨count, rfl⟩ := Int.eq_ofNat_of_zero_le rowsPos.le
  rw [Int.toNat_natCast, Int.cast_natCast,
    Double.ceil_roundedQuotient (by exact_mod_cast rowsPos) small (by exact_mod_cast bounded)]

end RecordStore
