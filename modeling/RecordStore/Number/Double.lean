/-!
IEEE 754 binary64 numbers as exact dyadic rationals. The quotient of two naturals is rounded to
the nearest such number, a tie going to the even significand; a quotient at or above the
overflow threshold has no rounding.
-/

namespace RecordStore

/-- A binary64 number. A finite one is `significand * 2 ^ exponent`, negated on demand. -/
inductive Double where
  | nan
  | infinity (negative : Bool)
  | finite (negative : Bool) (significand : Nat) (exponent : Int)
  deriving DecidableEq, Repr, Inhabited

namespace Double

def leastExponent : Int := -1074

def greatestExponent : Int := 971

def significandBound : Nat := 9007199254740992

def scaleDown (numerator denominator : Nat) (exponent : Int) : Nat × Nat :=
  if 0 ≤ exponent then (numerator, denominator * Nat.pow 2 exponent.toNat)
  else (numerator * Nat.pow 2 (-exponent).toNat, denominator)

def nearestEven (numerator denominator : Nat) : Nat :=
  let whole := numerator / denominator
  let rest := numerator % denominator
  if 2 * rest < denominator then whole
  else if denominator < 2 * rest then whole + 1
  else if whole % 2 = 0 then whole else whole + 1

def binaryMagnitude (numerator denominator : Nat) : Int :=
  let estimate : Int := (Nat.log2 numerator : Int) - (Nat.log2 denominator : Int)
  let (scaled, unit) := scaleDown numerator denominator estimate
  if scaled < unit then estimate - 1 else estimate

/-- The significand and exponent of the rounded quotient of two positive numbers, before the
overflow check. -/
def roundFraction (numerator denominator : Nat) : Nat × Int :=
  let exponent := max leastExponent (binaryMagnitude numerator denominator - 52)
  let (scaled, unit) := scaleDown numerator denominator exponent
  let significand := nearestEven scaled unit
  if significand = significandBound then (significandBound / 2, exponent + 1)
  else (significand, exponent)

def ofQuotient? (negative : Bool) (numerator denominator : Nat) : Option Double :=
  if numerator = 0 then some (.finite negative 0 leastExponent)
  else
    let (significand, exponent) := roundFraction numerator denominator
    if greatestExponent < exponent then none else some (.finite negative significand exponent)

def ofDecimal (negative : Bool) (coefficient : Nat) (exponent : Int) : Double :=
  let size : Int := (Nat.toDigits 10 coefficient).length + exponent
  if coefficient = 0 ∨ size < -330 then .finite negative 0 leastExponent
  else if 310 < size then .infinity negative
  else
    let rounded :=
      if 0 ≤ exponent then ofQuotient? negative (coefficient * Nat.pow 10 exponent.toNat) 1
      else ofQuotient? negative coefficient (Nat.pow 10 (-exponent).toNat)
    rounded.getD (.infinity negative)

def toFraction? : Double → Option (Int × Nat)
  | .finite negative significand exponent =>
    let (numerator, denominator) := scaleDown significand 1 (-exponent)
    some (if negative then -numerator else numerator, denominator)
  | _ => none

def ceilFraction (numerator : Int) (denominator : Nat) : Int :=
  -((-numerator) / (denominator : Int))

def ceil? (number : Double) : Option Int :=
  number.toFraction?.map fun fraction => ceilFraction fraction.1 fraction.2

def toInt? (number : Double) : Option Int :=
  match number.toFraction? with
  | some (numerator, denominator) =>
    if numerator % denominator = 0 then some (numerator / denominator) else none
  | none => none

def isFinite : Double → Bool
  | .finite .. => true
  | _ => false

end Double
end RecordStore
