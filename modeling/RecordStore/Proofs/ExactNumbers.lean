import RecordStore.Value.Same

/-!
Exact numbers. A number that was read from a value is a fraction with a positive denominator or
none at all, and such a number equals at most one integer.
-/

namespace RecordStore

theorem Double.toFraction?_denominator {number : Double} {numerator : Int} {denominator : Nat}
    (isFraction : number.toFraction? = some (numerator, denominator)) : 0 < denominator := by
  cases number with
  | nan => simp [toFraction?] at isFraction
  | infinity => simp [toFraction?] at isFraction
  | finite negative significand exponent =>
      simp only [toFraction?, Option.some.injEq, Prod.mk.injEq] at isFraction
      rw [← isFraction.2, scaleDown]
      split
      · exact Nat.mul_pos Nat.one_pos (Nat.two_pow_pos _)
      · simp

theorem Decimal.toFraction?_denominator {number : Decimal} {numerator : Int} {denominator : Nat}
    (isFraction : number.toFraction? = some (numerator, denominator)) : 0 < denominator := by
  cases number with
  | nan => simp [toFraction?] at isFraction
  | infinity => simp [toFraction?] at isFraction
  | finite negative coefficient exponent =>
      simp only [toFraction?, Option.some.injEq] at isFraction
      split at isFraction
      · rw [← (Prod.mk.inj isFraction).2]
        exact Nat.one_pos
      · rw [← (Prod.mk.inj isFraction).2]
        exact Nat.pow_pos (by decide)

namespace ExactNumber

def IsProper : ExactNumber → Prop
  | .fraction _ denominator => 0 < denominator
  | _ => True

theorem isProper_ofInt (number : Int) : (ofInt number).IsProper := Nat.one_pos

theorem isProper_ofDouble (number : Double) : (ofDouble number).IsProper := by
  simp only [ofDouble]
  split
  · rename_i isFraction
    exact Double.toFraction?_denominator isFraction
  · trivial
  · trivial

theorem isProper_ofDecimal (number : Decimal) : (ofDecimal number).IsProper := by
  simp only [ofDecimal]
  split
  · rename_i isFraction
    exact Decimal.toFraction?_denominator isFraction
  · trivial
  · trivial

theorem equals_ofInt_unique {number : ExactNumber} {first second : Int} (proper : number.IsProper)
    (isFirst : number.equals (ofInt first) = true)
    (isSecond : number.equals (ofInt second) = true) : first = second := by
  cases number with
  | nan => simp [equals] at isFirst
  | infinity => simp [equals, ofInt] at isFirst
  | fraction top bottom =>
      simp only [equals, ofInt, beq_iff_eq] at isFirst isSecond
      have positive : (bottom : Int) ≠ 0 := by
        have known : 0 < bottom := proper
        omega
      exact Int.eq_of_mul_eq_mul_right positive (isFirst.symm.trans isSecond)

theorem equals_ofDouble_iff {number : Double} {whole : Int} (isWhole : number.toInt? = some whole)
    (other : Int) : (ofInt other).equals (ofDouble number) = true ↔ other = whole := by
  simp only [Double.toInt?] at isWhole
  split at isWhole
  · rename_i numerator denominator isFraction
    obtain ⟨divides, same⟩ := Option.ite_none_right_eq_some.mp isWhole
    obtain rfl := Option.some.inj same
    have positive : (denominator : Int) ≠ 0 := by
      have known := Double.toFraction?_denominator isFraction
      omega
    have read : ofDouble number = .fraction numerator denominator := by
      simp [ofDouble, isFraction]
    have product := Int.ediv_mul_cancel (Int.dvd_of_emod_eq_zero divides)
    rw [read, ofInt, equals, beq_iff_eq, Int.natCast_one, Int.mul_one]
    constructor
    · intro equal
      exact Int.eq_of_mul_eq_mul_right positive (equal.trans product.symm)
    · rintro rfl
      exact product
  · cases isWhole

end ExactNumber

namespace Value

theorem isProper_number? {value : Value} {number : ExactNumber}
    (isNumber : value.number? = some number) : number.IsProper := by
  cases value <;> simp only [number?, Option.some.injEq, reduceCtorEq] at isNumber <;> subst isNumber
  · exact ExactNumber.isProper_ofInt _
  · exact ExactNumber.isProper_ofInt _
  · exact ExactNumber.isProper_ofDouble _
  · exact ExactNumber.isProper_ofDecimal _

theorem number?_of_same_integer {value : Value} {id : Int} (alike : value.same (.integer id) = true) :
    ∃ number, value.number? = some number ∧ number.equals (.ofInt id) = true := by
  cases value <;> simp only [same, sameScalar, number?, Bool.false_eq_true] at alike
  all_goals exact ⟨_, rfl, alike⟩

theorem same_integer_unique {value : Value} {first second : Int}
    (isFirst : value.same (.integer first) = true)
    (isSecond : value.same (.integer second) = true) : first = second := by
  obtain ⟨number, isNumber, equalsFirst⟩ := number?_of_same_integer isFirst
  obtain ⟨other, isOther, equalsSecond⟩ := number?_of_same_integer isSecond
  obtain rfl := Option.some.inj (isNumber.symm.trans isOther)
  exact ExactNumber.equals_ofInt_unique (isProper_number? isNumber) equalsFirst equalsSecond

end Value
end RecordStore
