import Mathlib.Algebra.Order.Ring.Int
import Mathlib.Data.List.TakeWhile
import Mathlib.Tactic.Tauto
import RecordStore.Time.DateTime

/-!
Texts of moments. A moment is read back from the text that a store keeps of it, and texts are in the
order of their moments, because all numbers are filled up to fixed widths. Only a text without the
fractional seconds lies before the full text of the same moment.
-/

namespace RecordStore

section Digits

theorem place_lt_iff {unit high high' low low' : Nat} (small : low < unit) (small' : low' < unit) :
    unit * high + low < unit * high' + low' ↔ high < high' ∨ high = high' ∧ low < low' := by
  rcases Nat.lt_trichotomy high high' with less | rfl | more
  · have gap := Nat.mul_le_mul_left unit less
    rw [Nat.mul_succ] at gap
    exact ⟨fun _ => .inl less, fun _ => by omega⟩
  · simp
  · have gap := Nat.mul_le_mul_left unit more
    rw [Nat.mul_succ] at gap
    omega

theorem ofDigitChars_cons_zero (digit : Char) (digits : List Char) :
    Nat.ofDigitChars 10 (digit :: digits) 0 =
      10 ^ digits.length * (digit.toNat - 48) + Nat.ofDigitChars 10 digits 0 := by
  rw [Nat.ofDigitChars_cons, Nat.ofDigitChars_eq_ofDigitChars_zero, Nat.mul_zero, Nat.zero_add]
  rfl

theorem toNat_of_isDigit {letter : Char} (digit : letter.isDigit = true) :
    48 ≤ letter.toNat ∧ letter.toNat ≤ 57 := by
  simp only [Char.isDigit, Bool.and_eq_true, decide_eq_true_eq] at digit
  exact ⟨UInt32.le_iff_toNat_le.mp digit.1, UInt32.le_iff_toNat_le.mp digit.2⟩

theorem ofDigitChars_lt {digits : List Char} (digitsOnly : ∀ letter ∈ digits, letter.isDigit = true) :
    Nat.ofDigitChars 10 digits 0 < 10 ^ digits.length := by
  induction digits with
  | nil => decide
  | cons digit digits ih =>
      obtain ⟨first, rest⟩ := List.forall_mem_cons.mp digitsOnly
      have small := ih rest
      have most : 10 ^ digits.length * (digit.toNat - 48) ≤ 10 ^ digits.length * 9 :=
        Nat.mul_le_mul_left _ (by have := (toNat_of_isDigit first).2; omega)
      rw [ofDigitChars_cons_zero, List.length_cons, Nat.pow_succ]
      omega

theorem digits_lt_iff {digits others : List Char} (length : digits.length = others.length)
    (digitsOnly : ∀ letter ∈ digits, letter.isDigit = true)
    (othersOnly : ∀ letter ∈ others, letter.isDigit = true) :
    digits < others ↔ Nat.ofDigitChars 10 digits 0 < Nat.ofDigitChars 10 others 0 := by
  induction digits generalizing others with
  | nil =>
      obtain rfl := List.length_eq_zero_iff.mp length.symm
      simp
  | cons digit digits ih =>
      cases others with
      | nil => cases length
      | cons other others =>
          obtain ⟨first, rest⟩ := List.forall_mem_cons.mp digitsOnly
          obtain ⟨first', rest'⟩ := List.forall_mem_cons.mp othersOnly
          have length := Nat.succ.inj length
          have low := (toNat_of_isDigit first).1
          have low' := (toNat_of_isDigit first').1
          have small := ofDigitChars_lt rest
          have small' := ofDigitChars_lt rest'
          rw [← length] at small'
          have before : digit < other ↔ digit.toNat - 48 < other.toNat - 48 := by
            rw [Char.lt_def, UInt32.lt_iff_toNat_lt]
            change digit.toNat < other.toNat ↔ _
            omega
          have same : digit = other ↔ digit.toNat - 48 = other.toNat - 48 := by
            rw [← Char.toNat_inj]
            omega
          rw [List.cons_lt_cons_iff, ofDigitChars_cons_zero, ofDigitChars_cons_zero, ← length,
            place_lt_iff small small', ih length rest rest', before, same]

theorem append_lt_append_iff {α : Type} [LT α] {first second rest rest' : List α}
    (same : first.length = second.length) :
    first ++ rest < second ++ rest' ↔ first < second ∨ first = second ∧ rest < rest' := by
  induction first generalizing second with
  | nil =>
      obtain rfl := List.length_eq_zero_iff.mp same.symm
      simp
  | cons item first ih =>
      cases second with
      | nil => cases same
      | cons other second =>
          rw [List.cons_append, List.cons_append, List.cons_lt_cons_iff, List.cons_lt_cons_iff,
            ih (Nat.succ.inj same), List.cons.injEq]
          tauto

end Digits

namespace DateTime

theorem toList_padded (width number : Nat) : (padded width number).toList =
    List.replicate (width - (Nat.toDigits 10 number).length) '0' ++ Nat.toDigits 10 number := by
  rw [padded, String.toList_ofList, Nat.toString_eq_ofList_toDigits, String.toList_ofList]

theorem isDigit_of_mem_padded {width number : Nat} {letter : Char}
    (found : letter ∈ (padded width number).toList) : letter.isDigit = true := by
  rw [toList_padded, List.mem_append, List.mem_replicate] at found
  rcases found with ⟨_, rfl⟩ | found
  · decide
  · exact Nat.isDigit_of_mem_toDigits (by decide) (by decide) found

theorem length_padded {width number : Nat} (widthPos : 0 < width) (small : number < 10 ^ width) :
    (padded width number).toList.length = width := by
  have short := (Nat.length_toDigits_le_iff (by decide) widthPos).mpr small
  rw [toList_padded, List.length_append, List.length_replicate]
  omega

theorem ofDigitChars_padded (width number : Nat) :
    Nat.ofDigitChars 10 (padded width number).toList 0 = number := by
  rw [toList_padded, Nat.ofDigitChars_append, Nat.ofDigitChars_replicate_zero, Nat.mul_zero,
    Nat.ofDigitChars_toDigits (by decide) (by decide)]

theorem padded_lt_iff {width number other : Nat} (widthPos : 0 < width) (small : number < 10 ^ width)
    (small' : other < 10 ^ width) :
    (padded width number).toList < (padded width other).toList ↔ number < other := by
  rw [digits_lt_iff ((length_padded widthPos small).trans (length_padded widthPos small').symm)
    (fun _ => isDigit_of_mem_padded) (fun _ => isDigit_of_mem_padded), ofDigitChars_padded,
    ofDigitChars_padded]

theorem padded_inj {width number other : Nat} :
    (padded width number).toList = (padded width other).toList ↔ number = other :=
  ⟨fun same => by rw [← ofDigitChars_padded width number, same, ofDigitChars_padded],
    fun same => same ▸ rfl⟩

theorem padded_append_lt_iff {width number other : Nat} (widthPos : 0 < width)
    (small : number < 10 ^ width) (small' : other < 10 ^ width) (rest rest' : List Char) :
    (padded width number).toList ++ rest < (padded width other).toList ++ rest' ↔
      number < other ∨ number = other ∧ rest < rest' := by
  rw [append_lt_append_iff ((length_padded widthPos small).trans (length_padded widthPos small').symm),
    padded_lt_iff widthPos small small', padded_inj]

theorem readDigits_padded {width number : Nat} (widthPos : 0 < width) (small : number < 10 ^ width)
    (rest : List Char) :
    readDigits width ((padded width number).toList ++ rest) = some (number, rest) := by
  have length := length_padded widthPos small
  have digits : ((padded width number).toList.all Char.isDigit) = true :=
    List.all_eq_true.mpr fun _ => isDigit_of_mem_padded
  simp only [readDigits, List.take_left' length, List.drop_left' length, length, digits, and_self,
    if_true]
  rw [← Nat.ofDigitChars_eq_foldl, ofDigitChars_padded]

theorem readFraction_padded {number : Nat} (small : number < 10 ^ 6) :
    readFraction ('.' :: (padded 6 number).toList) = some (number, []) := by
  have length := length_padded (by decide) small
  have isDigit : ∀ letter ∈ (padded 6 number).toList, letter.isDigit = true :=
    fun _ => isDigit_of_mem_padded
  have digits := List.takeWhile_eq_self_iff.mpr isDigit
  have nothing := List.dropWhile_eq_nil_iff.mpr isDigit
  have nonempty : (padded 6 number).toList ≠ [] := List.ne_nil_of_length_pos (by omega)
  simp only [readFraction, digits, nothing, List.take_of_length_le length.le, List.isEmpty_iff,
    nonempty, if_false, length]
  rw [← Nat.ofDigitChars_eq_foldl, ofDigitChars_padded, Nat.sub_self]
  simp

def isProper (moment : DateTime) : Bool := moment.isValid && moment.microsecond < 1000000

/-- A moment without its fractional seconds, as the clock of a store writes it. -/
def toShort (moment : DateTime) : String := moment.dateText ++ " " ++ moment.clockText

def seconds (moment : DateTime) : List Nat :=
  [moment.year, moment.month, moment.day, moment.hour, moment.minute, moment.second]

def isBefore (moment other : DateTime) : Bool :=
  moment.seconds ++ [moment.microsecond] < other.seconds ++ [other.microsecond]

def written (moment : DateTime) (tail : List Char) : List Char :=
  (padded 4 moment.year).toList ++ '-' :: ((padded 2 moment.month).toList ++ '-' ::
    ((padded 2 moment.day).toList ++ ' ' :: ((padded 2 moment.hour).toList ++ ':' ::
      ((padded 2 moment.minute).toList ++ ':' :: ((padded 2 moment.second).toList ++ tail)))))

theorem toList_toStored (moment : DateTime) :
    moment.toStored.toList = moment.written ('.' :: (padded 6 moment.microsecond).toList) := by
  simp [toStored, dateText, clockText, written]

theorem toList_toShort (moment : DateTime) :
    moment.toShort.toList = moment.written [] := by
  simp [toShort, dateText, clockText, written]

theorem small_of_isValid {moment : DateTime} (valid : moment.isValid = true) :
    moment.year < 10 ^ 4 ∧ moment.month < 10 ^ 2 ∧ moment.day < 10 ^ 2 ∧ moment.hour < 10 ^ 2 ∧
      moment.minute < 10 ^ 2 ∧ moment.second < 10 ^ 2 := by
  have days : daysInMonth moment.year moment.month ≤ 31 := by
    unfold daysInMonth
    repeat' split
    all_goals decide
  simp only [isValid, Bool.and_eq_true, decide_eq_true_eq] at valid
  omega

theorem ofText?_written {moment : DateTime} (valid : moment.isValid = true) {text : String}
    {tail : List Char} (shape : text.toList = moment.written tail)
    (fraction : readFraction tail = some (moment.microsecond, [])) :
    ofText? text = some moment := by
  obtain ⟨year, month, day, hour, minute, second⟩ := small_of_isValid valid
  have two : 0 < 2 := by decide
  simp only [ofText?, shape, written, readMarked, if_true, Option.bind_eq_bind, Option.bind_some,
    readDigits_padded (by decide : 0 < 4) year, readDigits_padded two month,
    readDigits_padded two day, readDigits_padded two hour, readDigits_padded two minute,
    readDigits_padded two second, fraction, or_true, List.isEmpty_nil, valid]

theorem written_lt_iff {moment other : DateTime} (valid : moment.isValid = true)
    (valid' : other.isValid = true) (tail tail' : List Char) :
    moment.written tail < other.written tail' ↔
      moment.seconds < other.seconds ∨ moment.seconds = other.seconds ∧ tail < tail' := by
  obtain ⟨year, month, day, hour, minute, second⟩ := small_of_isValid valid
  obtain ⟨year', month', day', hour', minute', second'⟩ := small_of_isValid valid'
  have two : 0 < 2 := by decide
  simp only [written, List.cons_lt_cons_iff, Char.lt_irrefl, true_and, false_or, seconds,
    padded_append_lt_iff (by decide : 0 < 4) year year', padded_append_lt_iff two month month',
    padded_append_lt_iff two day day', padded_append_lt_iff two hour hour',
    padded_append_lt_iff two minute minute', padded_append_lt_iff two second second',
    List.cons.injEq, and_true, List.not_lt_nil, and_false, or_false]
  tauto

/-- Whether a text is a moment as a store holds it: in full, or from the clock of the store. -/
def IsStoredAs (moment : DateTime) (text : String) : Prop :=
  moment.isProper = true ∧
    (text = moment.toStored ∨ moment.microsecond = 0 ∧ text = moment.toShort)

theorem IsStoredAs.valid {moment : DateTime} {text : String} (stored : moment.IsStoredAs text) :
    moment.isValid = true ∧ moment.microsecond < 10 ^ 6 := by
  simpa [isProper] using stored.1

theorem IsStoredAs.read {moment : DateTime} {text : String} (stored : moment.IsStoredAs text) :
    ofText? text = some moment := by
  obtain ⟨valid, small⟩ := stored.valid
  rcases stored.2 with rfl | ⟨whole, rfl⟩
  · exact ofText?_written valid moment.toList_toStored (readFraction_padded small)
  · exact ofText?_written valid moment.toList_toShort (by rw [whole]; rfl)

theorem toShort_ne_toStored (moment : DateTime) : moment.toShort ≠ moment.toStored := by
  intro same
  have letters := congrArg String.toList same
  rw [toList_toShort, toList_toStored] at letters
  simp [written] at letters

theorem isBefore_iff {moment other : DateTime} : moment.isBefore other = true ↔
    moment.seconds < other.seconds ∨
      moment.seconds = other.seconds ∧ moment.microsecond < other.microsecond := by
  rw [isBefore, decide_eq_true_eq,
    append_lt_append_iff (show moment.seconds.length = other.seconds.length from rfl),
    List.cons_lt_cons_iff]
  simp

theorem eq_of_seconds {moment other : DateTime} (same : moment.seconds = other.seconds)
    (fraction : moment.microsecond = other.microsecond) : moment = other := by
  cases moment
  cases other
  simp_all [seconds]

/-- Stored texts are in the order of their moments, where a text without fractional seconds lies
before the full text of the same moment. -/
theorem IsStoredAs.lt_iff {moment other : DateTime} {text text' : String}
    (stored : moment.IsStoredAs text) (stored' : other.IsStoredAs text') : text < text' ↔
      moment.isBefore other = true ∨
        moment = other ∧ text ≠ moment.toStored ∧ text' = other.toStored := by
  obtain ⟨valid, small⟩ := stored.valid
  obtain ⟨valid', small'⟩ := stored'.valid
  rw [isBefore_iff, String.lt_iff]
  rcases stored.2 with rfl | ⟨whole, rfl⟩ <;> rcases stored'.2 with rfl | ⟨whole', rfl⟩ <;>
    simp only [toList_toStored, toList_toShort, written_lt_iff valid valid']
  · simp [padded_lt_iff (by decide : 0 < 6) small small']
  · simp [whole']
  · have nothing : ([] : List Char) < '.' :: (padded 6 other.microsecond).toList := by simp
    simp only [whole, nothing, and_true, ne_eq, toShort_ne_toStored, not_false_eq_true]
    constructor
    · rintro (before | same)
      · exact .inl (.inl before)
      · rcases Nat.eq_zero_or_pos other.microsecond with whole' | fraction
        · exact .inr (eq_of_seconds same (whole.trans whole'.symm))
        · exact .inl (.inr ⟨same, fraction⟩)
    · rintro ((before | ⟨same, -⟩) | rfl)
      · exact .inl before
      · exact .inr same
      · exact .inr rfl
  · simp [whole, whole', toShort_ne_toStored]

theorem IsStoredAs.eq_iff {moment other : DateTime} {text text' : String}
    (stored : moment.IsStoredAs text) (stored' : other.IsStoredAs text') :
    text = text' ↔ moment = other ∧ (text = moment.toStored ↔ text' = other.toStored) := by
  constructor
  · rintro rfl
    obtain rfl : moment = other := Option.some.inj (stored.read.symm.trans stored'.read)
    exact ⟨rfl, Iff.rfl⟩
  · rintro ⟨rfl, alike⟩
    rcases stored.2 with full | ⟨-, short⟩
    · exact full.trans (alike.mp full).symm
    · rcases stored'.2 with full' | ⟨-, short'⟩
      · exact (alike.mpr full').trans full'.symm
      · exact short.trans short'.symm

end DateTime
end RecordStore
