import RecordStore.Number.Double

/-!
Decimal text of binary64 numbers: the fewest digits that read back as the same number, the
nearest of those, and the rounding to a fixed count of digits. A `NumberLayout` says where the
positional form ends.
-/

namespace RecordStore

structure DecimalDigits where
  coefficient : Nat
  exponent : Int
  deriving DecidableEq, Repr, Inhabited

namespace DecimalDigits

def magnitude (digits : DecimalDigits) : Int :=
  digits.exponent + (Nat.toDigits 10 digits.coefficient).length - 1

def trim (fuel : Nat) (digits : DecimalDigits) : DecimalDigits :=
  match fuel with
  | 0 => digits
  | fuel + 1 =>
    if digits.coefficient ≠ 0 ∧ digits.coefficient % 10 = 0 then
      trim fuel ⟨digits.coefficient / 10, digits.exponent + 1⟩
    else digits

end DecimalDigits

namespace Double

def scaleDecimal (numerator denominator : Nat) (exponent : Int) : Nat × Nat :=
  if 0 ≤ exponent then (numerator, denominator * Nat.pow 10 exponent.toNat)
  else (numerator * Nat.pow 10 (-exponent).toNat, denominator)

def smallMagnitude (numerator denominator : Nat) : Nat → Nat → Int
  | 0, place => -(place : Int)
  | fuel + 1, place =>
    if denominator ≤ numerator * Nat.pow 10 place then -(place : Int)
    else smallMagnitude numerator denominator fuel (place + 1)

def decimalMagnitude (numerator denominator : Nat) : Int :=
  if denominator ≤ numerator then
    (Nat.toDigits 10 (numerator / denominator)).length - 1
  else smallMagnitude numerator denominator 400 1

/-- Whether `candidate * 10 ^ place` rounds to the number `significand * 2 ^ exponent`: it lies
between the two midpoints around the number, ends included when the significand is even. -/
def readsBack (significand : Nat) (exponent : Int) (candidate : Nat) (place : Int) : Bool :=
  let narrow := significand = significandBound / 2 ∧ leastExponent < exponent
  let lower := if narrow then 4 * significand - 1 else 4 * significand - 2
  let upper := 4 * significand + 2
  let (lowTop, lowBottom) := scaleDown lower 4 (-exponent)
  let (highTop, highBottom) := scaleDown upper 4 (-exponent)
  let (top, bottom) := scaleDecimal candidate 1 (-place)
  if significand % 2 = 0 then
    lowTop * bottom ≤ top * lowBottom && top * highBottom ≤ highTop * bottom
  else lowTop * bottom < top * lowBottom && top * highBottom < highTop * bottom

def onGrid? (significand : Nat) (exponent : Int) (place : Int) : Option DecimalDigits :=
  let (numerator, denominator) := scaleDown significand 1 (-exponent)
  let (top, bottom) := scaleDecimal numerator denominator place
  let below := top / bottom
  let nearer := nearestEven top bottom
  let other := if nearer = below then below + 1 else below
  if readsBack significand exponent nearer place then some ⟨nearer, place⟩
  else if readsBack significand exponent other place then some ⟨other, place⟩
  else none

def searchShortest (significand : Nat) (exponent magnitude : Int) : Nat → DecimalDigits
  | 0 => ⟨significand, exponent⟩
  | fuel + 1 =>
    match onGrid? significand exponent (magnitude - (17 - fuel : Nat) + 1) with
    | some digits => digits
    | none => searchShortest significand exponent magnitude fuel

/-- The fewest digits that read back as the positive number `significand * 2 ^ exponent`. -/
def shortest (significand : Nat) (exponent : Int) : DecimalDigits :=
  let (numerator, denominator) := scaleDown significand 1 (-exponent)
  (searchShortest significand exponent (decimalMagnitude numerator denominator) 17).trim 20

def rounded (count : Nat) (significand : Nat) (exponent : Int) : DecimalDigits :=
  let (numerator, denominator) := scaleDown significand 1 (-exponent)
  let place := decimalMagnitude numerator denominator - count + 1
  let (top, bottom) := scaleDecimal numerator denominator place
  (DecimalDigits.mk (nearestEven top bottom) place).trim 20

end Double

structure NumberLayout where
  /-- The least magnitude written positionally. -/
  lowest : Int
  /-- The first magnitude written with an exponent. -/
  highest : Int
  /-- Whether a lone leading digit before an exponent is followed by `.0`. -/
  pointBeforeExponent : Bool

namespace NumberLayout

def exponentText (exponent : Int) : String :=
  let digits := toString exponent.natAbs
  (if exponent < 0 then "e-" else "e+") ++ (if digits.length < 2 then "0" ++ digits else digits)

def positional (digits : DecimalDigits) : String :=
  let text := toString digits.coefficient
  if 0 ≤ digits.exponent then text ++ String.ofList (List.replicate digits.exponent.toNat '0') ++ ".0"
  else
    let places := (-digits.exponent).toNat
    let padded := List.replicate (places + 1 - text.length) '0' ++ text.toList
    let whole := padded.length - places
    String.ofList (padded.take whole) ++ "." ++ String.ofList (padded.drop whole)

def scientific (layout : NumberLayout) (digits : DecimalDigits) : String :=
  let text := (toString digits.coefficient).toList
  let fraction := text.drop 1
  let mantissa :=
    if fraction.isEmpty then
      String.ofList text ++ (if layout.pointBeforeExponent then ".0" else "")
    else String.ofList (text.take 1) ++ "." ++ String.ofList fraction
  mantissa ++ exponentText digits.magnitude

def render (layout : NumberLayout) (digits : DecimalDigits) : String :=
  if digits.coefficient = 0 then "0.0"
  else if layout.lowest ≤ digits.magnitude ∧ digits.magnitude < layout.highest then
    positional digits
  else layout.scientific digits

end NumberLayout
end RecordStore
