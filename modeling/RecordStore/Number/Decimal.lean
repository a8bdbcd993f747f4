import RecordStore.Number.Double

/-!
Exact decimal numbers. A finite one keeps its trailing zeros, so `1.5` and `1.50` are different
decimals of equal value. `Fraction?` views of decimals and of binary64 numbers make the two
comparable without rounding.
-/

namespace RecordStore

/-- A decimal number. A finite one is `coefficient * 10 ^ exponent`, negated on demand. -/
inductive Decimal where
  | nan
  | infinity (negative : Bool)
  | finite (negative : Bool) (coefficient : Nat) (exponent : Int)
  deriving DecidableEq, Repr, Inhabited

namespace Decimal

def ofDigits (digits : List Char) : Nat :=
  digits.foldl (fun total digit => 10 * total + (digit.toNat - '0'.toNat)) 0

def splitSign : List Char → Bool × List Char
  | '-' :: rest => (true, rest)
  | '+' :: rest => (false, rest)
  | rest => (false, rest)

def ofDigitText? (negative : Bool) (text : List Char) : Option Decimal :=
  let whole := text.takeWhile Char.isDigit
  let rest := text.dropWhile Char.isDigit
  let (fraction, rest) := match rest with
    | '.' :: tail => (tail.takeWhile Char.isDigit, tail.dropWhile Char.isDigit)
    | other => ([], other)
  let exponent? : Option Int := match rest with
    | [] => some 0
    | letter :: tail =>
      let (below, digits) := splitSign tail
      if (letter = 'e' || letter = 'E') && !digits.isEmpty && digits.all Char.isDigit then
        some (if below then -(ofDigits digits : Int) else ofDigits digits)
      else none
  if whole.isEmpty && fraction.isEmpty then none
  else exponent?.map fun exponent =>
    .finite negative (ofDigits (whole ++ fraction)) (exponent - fraction.length)

def ofText? (text : String) : Option Decimal :=
  let (negative, rest) := splitSign text.toList
  let word := String.ofList (rest.map Char.toLower)
  if word = "nan" then some .nan
  else if word = "inf" || word = "infinity" then some (.infinity negative)
  else ofDigitText? negative rest

def signText (negative : Bool) : String :=
  if negative then "-" else ""

/-- The text of a decimal: positional when the exponent is not positive and the leading digit
stands at most six places after the point, else with an exponent. -/
def toText : Decimal → String
  | .nan => "NaN"
  | .infinity negative => signText negative ++ "Infinity"
  | .finite negative coefficient exponent =>
    let digits := (toString coefficient).toList
    let leading : Int := exponent + digits.length
    let point : Int := if exponent ≤ 0 ∧ -6 < leading then leading else 1
    let body :=
      if point ≤ 0 then
        "0." ++ String.ofList (List.replicate (-point).toNat '0' ++ digits)
      else if (digits.length : Int) ≤ point then
        String.ofList (digits ++ List.replicate (point.toNat - digits.length) '0')
      else
        String.ofList (digits.take point.toNat) ++ "." ++ String.ofList (digits.drop point.toNat)
    let scale := leading - point
    let exponentText :=
      if scale = 0 then "" else (if scale < 0 then "E-" else "E+") ++ toString scale.natAbs
    signText negative ++ body ++ exponentText

def toFraction? : Decimal → Option (Int × Nat)
  | .finite negative coefficient exponent =>
    let numerator : Int := if negative then -(coefficient : Int) else coefficient
    some (if 0 ≤ exponent then (numerator * Int.pow 10 exponent.toNat, 1)
      else (numerator, Nat.pow 10 (-exponent).toNat))
  | _ => none

def toDouble : Decimal → Double
  | .nan => .nan
  | .infinity negative => .infinity negative
  | .finite negative coefficient exponent => Double.ofDecimal negative coefficient exponent

end Decimal

inductive ExactNumber where
  | nan
  | infinity (negative : Bool)
  | fraction (numerator : Int) (denominator : Nat)
  deriving DecidableEq, Repr

namespace ExactNumber

def ofInt (number : Int) : ExactNumber := .fraction number 1

def ofDouble (number : Double) : ExactNumber :=
  match number, number.toFraction? with
  | _, some (numerator, denominator) => .fraction numerator denominator
  | .infinity negative, none => .infinity negative
  | _, none => .nan

def ofDecimal (number : Decimal) : ExactNumber :=
  match number, number.toFraction? with
  | _, some (numerator, denominator) => .fraction numerator denominator
  | .infinity negative, none => .infinity negative
  | _, none => .nan

def equals : ExactNumber → ExactNumber → Bool
  | .fraction top bottom, .fraction top' bottom' => top * bottom' == top' * bottom
  | .infinity negative, .infinity negative' => negative == negative'
  | _, _ => false

def less : ExactNumber → ExactNumber → Bool
  | .fraction top bottom, .fraction top' bottom' => top * bottom' < top' * bottom
  | .infinity true, .infinity false => true
  | .infinity true, .fraction .. => true
  | .fraction .., .infinity false => true
  | _, _ => false

end ExactNumber
end RecordStore
