import RecordStore.Proofs.Bindings
import RecordStore.Proofs.MomentTexts
import RecordStore.Store.Query

/-!
Operands of the type of a column. Such a value can be bound, and the cell that stands for it is
compared with the column as it is.
-/

namespace RecordStore

namespace DateTime

theorem padded_ne_nil {width : Nat} (widthPos : 0 < width) (number : Nat) :
    (padded width number).toList ≠ [] := by
  intro nothing
  have length := congrArg List.length nothing
  simp only [padded, String.toList_ofList, List.length_append, List.length_replicate, List.length_nil]
    at length
  omega

theorem exists_toList_toStored (moment : DateTime) : ∃ middle,
    moment.toStored.toList = (padded 4 moment.year).toList ++ '-' :: middle ++
      (padded 6 moment.microsecond).toList := by
  refine ⟨(padded 2 moment.month ++ "-" ++ padded 2 moment.day ++ " " ++ moment.clockText ++
    ".").toList, ?_⟩
  simp [toStored, dateText]

end DateTime

namespace Cell

theorem not_isBlank_of_isDigit {letter : Char} (digit : letter.isDigit = true) :
    isBlank letter = false := by
  have lower := (toNat_of_isDigit digit).1
  have notSpace : letter ≠ ' ' := by
    rintro rfl
    exact absurd lower (by decide)
  simp only [isBlank, notSpace, decide_false, Bool.false_or, Bool.and_eq_false_imp, decide_eq_true_eq,
    decide_eq_false_iff_not]
  omega

theorem ofNumericText?_dashed {text : String} {digits middle tail : List Char}
    (shape : text.toList = digits ++ '-' :: middle ++ tail) (digitsNonempty : digits ≠ [])
    (digitsOnly : ∀ letter ∈ digits, letter.isDigit = true) (tailNonempty : tail ≠ [])
    (tailDigits : ∀ letter ∈ tail, letter.isDigit = true) : ofNumericText? text = none := by
  obtain ⟨first, digits, rfl⟩ := List.exists_cons_of_ne_nil digitsNonempty
  obtain nothing | ⟨init, last, rfl⟩ := List.eq_nil_or_concat tail
  · exact absurd nothing tailNonempty
  have firstDigit := digitsOnly first List.mem_cons_self
  have lastDigit := tailDigits last (by simp)
  have trimmed : ((text.toList.dropWhile isBlank).reverse.dropWhile isBlank).reverse =
      text.toList := by
    rw [shape]
    simp [not_isBlank_of_isDigit firstDigit, not_isBlank_of_isDigit lastDigit]
  have unsigned : Decimal.splitSign text.toList = (false, text.toList) := by
    rw [shape]
    simp only [List.cons_append, Decimal.splitSign]
    split
    · rename_i minus
      obtain rfl := (List.cons.inj minus).1
      exact absurd firstDigit (by decide)
    · rename_i plus
      obtain rfl := (List.cons.inj plus).1
      exact absurd firstDigit (by decide)
    · rfl
  have dash : Char.isDigit '-' = false := by decide
  have number : text.toList.takeWhile Char.isDigit = first :: digits := by
    rw [shape, List.append_assoc, List.takeWhile_append_of_pos digitsOnly]
    simp [dash]
  have rest : text.toList.dropWhile Char.isDigit = '-' :: (middle ++ init.concat last) := by
    rw [shape, List.append_assoc, List.dropWhile_append_of_pos digitsOnly]
    simp [dash]
  simp [ofNumericText?, trimmed, unsigned, Decimal.ofDigitText?, number, rest]

theorem ofNumericText?_toStored (moment : DateTime) : ofNumericText? moment.toStored = none := by
  obtain ⟨middle, shape⟩ := moment.exists_toList_toStored
  exact ofNumericText?_dashed shape (DateTime.padded_ne_nil (by decide) _)
    (fun _ => DateTime.isDigit_of_mem_padded) (DateTime.padded_ne_nil (by decide) _)
    fun _ => DateTime.isDigit_of_mem_padded

end Cell

/-- The cell that stands for an operand that has the type of a column. -/
def ColumnType.boundCell? : ColumnType → Value → Option Cell
  | .integer, .integer value => if Cell.fits value then some (.integer value) else none
  | .integer, .boolean value => some (.integer (if value then 1 else 0))
  | .text _, value => value.asText?.map .text
  | .boolean, .boolean value => some (.integer (if value then 1 else 0))
  | .float, .float .nan => none
  | .float, .float value => some (.real value)
  | .float, .integer value => if Cell.fits value then some (.integer value) else none
  | .moment, .moment value => some (.text value.toStored)
  | _, _ => none

theorem boundCell?_cases {type : ColumnType} {value : Value} {cell : Cell}
    (typed : type.boundCell? value = some cell) :
    (∃ number, (type = .integer ∨ type = .float) ∧ value = .integer number ∧
        Cell.fits number = true ∧ cell = .integer number) ∨
      (∃ truth, (type = .integer ∨ type = .boolean) ∧ value = .boolean truth ∧
        cell = .integer (if truth then 1 else 0)) ∨
      (∃ length word, type = .text length ∧ value.asText? = some word ∧ cell = .text word) ∨
      (∃ number, type = .float ∧ value = .float number ∧ number ≠ .nan ∧ cell = .real number) ∨
      ∃ moment, type = .moment ∧ value = .moment moment ∧ cell = .text moment.toStored := by
  unfold ColumnType.boundCell? at typed
  split at typed
  · obtain ⟨small, same⟩ := Option.ite_none_right_eq_some.mp typed
    exact .inl ⟨_, .inl rfl, rfl, small, (Option.some.inj same).symm⟩
  · exact .inr (.inl ⟨_, .inl rfl, rfl, (Option.some.inj typed).symm⟩)
  · obtain ⟨word, isText, same⟩ := Option.map_eq_some_iff.mp typed
    exact .inr (.inr (.inl ⟨_, word, rfl, isText, same.symm⟩))
  · exact .inr (.inl ⟨_, .inr rfl, rfl, (Option.some.inj typed).symm⟩)
  · cases typed
  · rename_i notNan
    exact .inr (.inr (.inr (.inl ⟨_, rfl, rfl, notNan, (Option.some.inj typed).symm⟩)))
  · obtain ⟨small, same⟩ := Option.ite_none_right_eq_some.mp typed
    exact .inl ⟨_, .inr rfl, rfl, small, (Option.some.inj same).symm⟩
  · exact .inr (.inr (.inr (.inr ⟨_, rfl, rfl, (Option.some.inj typed).symm⟩)))
  · cases typed

theorem prepare_against {column : BindType} {value prepared : Value}
    (own : (BindType.ofValue value).prepare value = .ok prepared)
    (alike : BindType.ofValue value = .untyped ∨ (BindType.ofValue value).kind = column.kind →
      column.prepare value = .ok prepared) :
    (column.against value).prepare value = .ok prepared := by
  unfold BindType.against
  dsimp only
  split
  · rename_i same
    exact alike same
  · exact own

theorem prepare_integer {type : BindType} (kind : type.kind = .integer) (number : Int) :
    type.prepare (.integer number) = .ok (.integer number) := by
  cases type <;> first | rfl | cases kind

theorem prepare_boolean (truth : Bool) :
    BindType.boolean.prepare (.boolean truth) = .ok (.integer (if truth then 1 else 0)) := by
  cases truth <;> simp [BindType.prepare, BindType.prepareTruth, Value.isMutable, Value.same,
    Value.sameScalar, Value.number?, ExactNumber.ofInt, ExactNumber.equals]

theorem bindType_of_text {attr : Attribute} {length : Option Nat} (isText : attr.type = .text length) :
    attr.bindType = .bigInteger ∨ attr.bindType = .text := by
  unfold Attribute.bindType
  split
  · exact .inl rfl
  · rw [isText]
    exact .inr rfl

theorem prepare_column_text {attr : Attribute} {length : Option Nat} (isText : attr.type = .text length)
    (value : Value) : attr.bindType.prepare value = .ok value := by
  rcases bindType_of_text isText with same | same <;> rw [same] <;> cases value <;> rfl

theorem prepare_text {attr : Attribute} {length : Option Nat} (isText : attr.type = .text length)
    {value : Value} {word : String} (spells : value.asText? = some word) :
    (attr.bindType.against value).prepare value = .ok value := by
  refine prepare_against ?_ fun _ => prepare_column_text isText value
  cases value <;> first | rfl | cases spells

theorem bind_text {value : Value} {word : String} (spells : value.asText? = some word) :
    Cell.bind 1 value = .ok (.text word) := by
  cases value <;> simp only [Value.asText?, Option.some.injEq, reduceCtorEq] at spells <;>
    subst spells <;> rfl

theorem bind_operand {attr : Attribute} {value : Value} {cell : Cell}
    (typed : attr.type.boundCell? value = some cell) :
    ∃ prepared, (attr.bindType.against value).prepare value = .ok prepared ∧
      Cell.bind 1 prepared = .ok cell := by
  rcases boundCell?_cases typed with ⟨number, _, rfl, small, rfl⟩ | ⟨truth, _, rfl, rfl⟩ |
    ⟨length, word, isText, spells, rfl⟩ | ⟨number, _, rfl, notNan, rfl⟩ | ⟨moment, _, rfl, rfl⟩
  · have kind : (BindType.ofValue (.integer number)).kind = .integer := by
      simp only [BindType.ofValue]
      split <;> rfl
    have hasType : BindType.ofValue (.integer number) ≠ .untyped := by
      simp only [BindType.ofValue]
      split <;> simp
    exact ⟨.integer number, prepare_against (prepare_integer kind number)
      fun alike => prepare_integer ((alike.resolve_left hasType).symm.trans kind) number,
      by simp [Cell.bind, small]⟩
  · refine ⟨_, prepare_against (prepare_boolean truth) fun alike => ?_, by cases truth <;> rfl⟩
    have column : attr.bindType = .boolean := by
      cases type : attr.bindType <;> simp [type, BindType.ofValue, BindType.kind] at alike ⊢
    rw [column, prepare_boolean]
  · exact ⟨value, prepare_text isText spells, bind_text spells⟩
  · refine ⟨.float number, prepare_against rfl fun alike => ?_, ?_⟩
    · cases type : attr.bindType <;>
        simp [type, BindType.ofValue, BindType.kind] at alike <;> rfl
    · cases number <;> first | rfl | exact absurd rfl notNan
  · refine ⟨.text moment.toStored, prepare_against rfl fun alike => ?_, rfl⟩
    cases type : attr.bindType <;> simp [type, BindType.ofValue, BindType.kind] at alike
    rfl

theorem compared_operand {attr : Attribute} {value : Value} {cell : Cell}
    (typed : attr.type.boundCell? value = some cell) :
    cell.compared attr.type.affinity = cell ∧ cell ≠ .null := by
  rcases boundCell?_cases typed with ⟨number, type | type, rfl, small, rfl⟩ |
    ⟨truth, type | type, rfl, rfl⟩ | ⟨length, word, type, spells, rfl⟩ |
    ⟨number, type, rfl, notNan, rfl⟩ | ⟨moment, type, rfl, rfl⟩ <;> rw [type]
  · exact ⟨rfl, by simp⟩
  · exact ⟨rfl, by simp⟩
  · exact ⟨rfl, by simp⟩
  · exact ⟨rfl, by simp⟩
  · exact ⟨rfl, by simp⟩
  · exact ⟨rfl, by simp⟩
  · refine ⟨?_, by simp⟩
    simp [Cell.compared, ColumnType.affinity, Cell.ofNumericText?_toStored]

end RecordStore
