/-!
Calendar dates with a time of day and no zone, and their texts: the interchange form with a `T`,
and the form that a store keeps, with a blank and six fractional digits.
-/

namespace RecordStore

structure DateTime where
  year : Nat
  month : Nat
  day : Nat
  hour : Nat := 0
  minute : Nat := 0
  second : Nat := 0
  microsecond : Nat := 0
  deriving DecidableEq, Repr, Inhabited

namespace DateTime

def padded (width number : Nat) : String :=
  let digits := (toString number).toList
  String.ofList (List.replicate (width - digits.length) '0' ++ digits)

def dateText (moment : DateTime) : String :=
  padded 4 moment.year ++ "-" ++ padded 2 moment.month ++ "-" ++ padded 2 moment.day

def clockText (moment : DateTime) : String :=
  padded 2 moment.hour ++ ":" ++ padded 2 moment.minute ++ ":" ++ padded 2 moment.second

def fractionText (moment : DateTime) : String :=
  if moment.microsecond = 0 then "" else "." ++ padded 6 moment.microsecond

def toIso (moment : DateTime) : String :=
  moment.dateText ++ "T" ++ moment.clockText ++ moment.fractionText

def toPlain (moment : DateTime) : String :=
  moment.dateText ++ " " ++ moment.clockText ++ moment.fractionText

/-- The form that a store keeps, such as `1999-12-31 23:59:59.000000`. -/
def toStored (moment : DateTime) : String :=
  moment.dateText ++ " " ++ moment.clockText ++ "." ++ padded 6 moment.microsecond

/-- The numbers of a moment; the seconds and their fraction only as far as they are not zero. -/
def numbers (moment : DateTime) : List Nat :=
  let fixed := [moment.year, moment.month, moment.day, moment.hour, moment.minute]
  if moment.microsecond ≠ 0 then fixed ++ [moment.second, moment.microsecond]
  else if moment.second ≠ 0 then fixed ++ [moment.second]
  else fixed

def readDigits (count : Nat) (text : List Char) : Option (Nat × List Char) :=
  let digits := text.take count
  if digits.length = count ∧ digits.all Char.isDigit then
    some (digits.foldl (fun total digit => 10 * total + (digit.toNat - '0'.toNat)) 0, text.drop count)
  else none

def readMarked (mark : Char) (count : Nat) : List Char → Option (Nat × List Char)
  | first :: rest => if first = mark then readDigits count rest else none
  | [] => none

def isLeapYear (year : Nat) : Bool :=
  year % 4 = 0 && (year % 100 ≠ 0 || year % 400 = 0)

def daysInMonth (year month : Nat) : Nat :=
  if month = 2 then (if isLeapYear year then 29 else 28)
  else if month = 4 ∨ month = 6 ∨ month = 9 ∨ month = 11 then 30
  else 31

def isValid (moment : DateTime) : Bool :=
  1 ≤ moment.year && moment.year ≤ 9999 && 1 ≤ moment.month && moment.month ≤ 12 &&
    1 ≤ moment.day && moment.day ≤ daysInMonth moment.year moment.month &&
    moment.hour < 24 && moment.minute < 60 && moment.second < 60

def readFraction : List Char → Option (Nat × List Char)
  | '.' :: rest =>
    let digits := (rest.takeWhile Char.isDigit).take 6
    if digits.isEmpty then none
    else
      let number := digits.foldl (fun total digit => 10 * total + (digit.toNat - '0'.toNat)) 0
      some (number * Nat.pow 10 (6 - digits.length), rest.dropWhile Char.isDigit)
  | rest => some (0, rest)

/-- Reads a date, alone or followed by a mark and a time of day with optional seconds. -/
def ofText? (text : String) : Option DateTime := do
  let (year, rest) ← readDigits 4 text.toList
  let (month, rest) ← readMarked '-' 2 rest
  let (day, rest) ← readMarked '-' 2 rest
  let moment ← match rest with
    | [] => some (DateTime.mk year month day 0 0 0 0)
    | mark :: rest =>
      if mark = 'T' ∨ mark = ' ' then do
        let (hour, rest) ← readDigits 2 rest
        let (minute, rest) ← readMarked ':' 2 rest
        let (second, rest) ← match rest with
          | [] => some (0, [])
          | rest => readMarked ':' 2 rest
        let (microsecond, rest) ← readFraction rest
        if rest.isEmpty then some (DateTime.mk year month day hour minute second microsecond)
        else none
      else none
  if moment.isValid then some moment else none

end DateTime
end RecordStore
