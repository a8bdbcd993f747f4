import RecordStore.Proofs.CellOrder
import RecordStore.Proofs.Operands

/-!
Values of columns. What a filter asks for and how a list is sorted is told by the values that the
cells of a column stand for, moments in time among them. The store compares texts instead. The two
agree but for moments that the clock of the store has written, without fractional seconds: such a
moment is compared as if it lay just before itself.
-/

namespace RecordStore

namespace Value

def rank : Value → Nat
  | .null => 0
  | .boolean _ => 1
  | .integer _ => 1
  | .float _ => 1
  | .decimal _ => 1
  | .text _ => 2
  | .condition _ => 2
  | .direction _ => 2
  | .moment _ => 3
  | .bytes _ => 4
  | _ => 5

/-- Whether a value lies before another one: numbers by their exact value, texts and strings of bytes
letter by letter, moments in time, and values of different kinds by their kind. Not-a-number lies
before and behind nothing. -/
def isLess (left right : Value) : Bool :=
  match left.number?, right.number? with
  | some number, some other => number.less other
  | some .nan, none => false
  | none, some .nan => false
  | _, _ =>
    match left.asText?, right.asText? with
    | some word, some other => word < other
    | _, _ =>
      match left, right with
      | .moment time, .moment other => time.isBefore other
      | .bytes value, .bytes other => value < other
      | left, right => left.rank < right.rank

end Value

namespace Cell

def moment? (type : ColumnType) : Cell → Option DateTime
  | .text word => if type = .moment then DateTime.ofText? word else none
  | _ => none

def bare : Cell → Value
  | .null => .null
  | .integer value => .integer value
  | .real .nan => .null
  | .real value => .float value
  | .text word => .text word
  | .blob value => .bytes value

def worth (type : ColumnType) (cell : Cell) : Value :=
  match cell.moment? type with
  | some moment => .moment moment
  | none => cell.bare

def isShort (type : ColumnType) (cell : Cell) : Bool :=
  (cell.moment? type).any fun moment => cell ≠ .text moment.toStored

/-- Whether a cell, if it is a text, is a moment as a store holds it. -/
def IsDated (cell : Cell) : Prop :=
  ∀ word, cell = .text word → ∃ moment : DateTime, moment.IsStoredAs word

end Cell

def ColumnType.takes : ColumnType → Value → Bool
  | .integer, .integer value => Cell.fits value
  | .integer, .boolean _ => true
  | .text _, value => value.isText
  | .boolean, .boolean _ => true
  | .float, .float _ => true
  | .float, .integer value => Cell.fits value
  | .moment, .moment value => value.isProper
  | _, _ => false

theorem isScalar_of_takes {type : ColumnType} {value : Value} (takes : type.takes value = true) :
    value.isScalar = true ∧ value.isRecord = false := by
  cases type <;> cases value <;> first | exact ⟨rfl, rfl⟩ | cases takes

structure Comparing where
  less : ColumnType → Cell → Cell → Bool
  equals : ColumnType → Cell → Value → Bool
  below : ColumnType → Cell → Value → Bool
  above : ColumnType → Cell → Value → Bool

namespace Comparing

def byValue : Comparing where
  less type cell other := (cell.worth type).isLess (other.worth type)
  equals type cell value := (cell.worth type).same value
  below type cell value := (cell.worth type).isLess value
  above type cell value := value.isLess (cell.worth type)

/-- Cells are compared by their values, but a moment without fractional seconds lies just before
itself. -/
def shortFirst : Comparing where
  less type cell other := byValue.less type cell other ||
    (cell.worth type).same (other.worth type) && cell.isShort type && !other.isShort type
  equals type cell value := byValue.equals type cell value && !cell.isShort type
  below type cell value := byValue.below type cell value ||
    byValue.equals type cell value && cell.isShort type
  above := byValue.above

def byCell : Comparing where
  less _ cell other := cell.less other
  equals type cell value := (type.boundCell? value).any fun bound => cell.same bound
  below type cell value := (type.boundCell? value).any fun bound => cell.less bound
  above type cell value := (type.boundCell? value).any fun bound => bound.less cell

end Comparing

namespace Cell

variable {type : ColumnType} {cell other : Cell}

theorem less_eq_bare (cell other : Cell) : cell.less other = cell.bare.isLess other.bare := by
  rcases cell with _ | _ | (_ | _ | _) | _ | _ <;> rcases other with _ | _ | (_ | _ | _) | _ | _ <;> rfl

theorem same_eq_bare (cell other : Cell) : cell.same other = cell.bare.same other.bare := by
  rcases cell with _ | _ | (_ | _ | _) | _ | _ <;> rcases other with _ | _ | (_ | _ | _) | _ | _ <;>
    simp [same, bare, Value.same, Value.sameScalar, Value.number?, Value.asText?, number?, rank]

theorem IsDated.cases (dated : cell.IsDated) :
    (∃ word moment, cell = .text word ∧ moment.IsStoredAs word ∧
        cell.moment? .moment = some moment) ∨
      (∀ word, cell ≠ .text word) ∧ cell.moment? .moment = none := by
  rcases cell with _ | _ | _ | word | _
  case text =>
    obtain ⟨moment, stored⟩ := dated word rfl
    exact .inl ⟨word, moment, rfl, stored, stored.read⟩
  all_goals exact .inr ⟨nofun, rfl⟩

theorem moment?_eq_none (plain : type ≠ .moment) (cell : Cell) : cell.moment? type = none := by
  cases cell <;> simp [moment?, plain]

theorem beside_moment (noText : ∀ word, cell ≠ .text word) (word : String) (moment : DateTime) :
    cell.bare.isLess (.moment moment) = cell.less (.text word) ∧
      (Value.moment moment).isLess cell.bare = (Cell.text word).less cell ∧
      cell.bare.same (.moment moment) = false ∧ (Value.moment moment).same cell.bare = false ∧
      cell.same (.text word) = false ∧ (Cell.text word).same cell = false := by
  rcases cell with _ | _ | (_ | _ | _) | _ | _
  case text => exact absurd rfl (noText _)
  all_goals
    refine ⟨rfl, rfl, ?_, ?_, rfl, rfl⟩ <;>
      simp [bare, Value.same, Value.sameScalar, Value.number?]

/-- The order of the store is that of the values, but that moments without fractional seconds lie just
before themselves. -/
theorem less_eq_shortFirst (dated : type = .moment → cell.IsDated ∧ other.IsDated) :
    cell.less other = Comparing.shortFirst.less type cell other := by
  simp only [Comparing.shortFirst, Comparing.byValue, worth, isShort]
  by_cases plain : type = .moment
  · subst plain
    obtain ⟨dated, dated'⟩ := dated rfl
    rcases dated.cases with ⟨word, moment, rfl, stored, read⟩ | ⟨noText, none⟩ <;>
      rcases dated'.cases with ⟨word', moment', rfl, stored', read'⟩ | ⟨noText', none'⟩
    · simp only [read, read', Option.any_some, less, Value.isLess, Value.same, Value.number?,
        Value.asText?]
      rw [Bool.eq_iff_iff, decide_eq_true_eq, stored.lt_iff stored']
      simp [and_assoc]
    · obtain ⟨-, before, -, different, -⟩ := beside_moment noText' word moment
      simp only [read, none', before, different, Bool.false_and, Bool.or_false]
    · obtain ⟨before, -, different, -⟩ := beside_moment noText word' moment'
      simp only [read', none, before, different, Bool.false_and, Bool.or_false]
    · simp [none, none', less_eq_bare]
  · simp [moment?_eq_none plain, less_eq_bare]

/-- The store finds cells equal that have the same value, both with or both without fractional
seconds. -/
theorem same_eq_worth (dated : type = .moment → cell.IsDated ∧ other.IsDated) :
    cell.same other =
      ((cell.worth type).same (other.worth type) && cell.isShort type == other.isShort type) := by
  simp only [worth, isShort]
  by_cases plain : type = .moment
  · subst plain
    obtain ⟨dated, dated'⟩ := dated rfl
    rcases dated.cases with ⟨word, moment, rfl, stored, read⟩ | ⟨noText, none⟩ <;>
      rcases dated'.cases with ⟨word', moment', rfl, stored', read'⟩ | ⟨noText', none'⟩
    · simp only [read, read', Option.any_some, same, Value.same]
      rw [Bool.eq_iff_iff, beq_iff_eq, stored.eq_iff stored', Bool.and_eq_true, beq_iff_eq,
        beq_iff_eq]
      by_cases full : word = moment.toStored <;> by_cases full' : word' = moment'.toStored <;>
        simp [full, full']
    · obtain ⟨-, -, -, different, -, apart⟩ := beside_moment noText' word moment
      simp only [read, none', different, apart, Bool.false_and]
    · obtain ⟨-, -, different, -, apart, -⟩ := beside_moment noText word' moment'
      simp only [read', none, different, apart, Bool.false_and]
    · simp [none, none', same_eq_bare]
  · simp [moment?_eq_none plain, same_eq_bare]

theorem beside_truth (truth : Bool) (other : Value) :
    other.isLess (.integer (if truth then 1 else 0)) = other.isLess (.boolean truth) ∧
      (Value.integer (if truth then 1 else 0)).isLess other = (Value.boolean truth).isLess other ∧
      other.same (.integer (if truth then 1 else 0)) = other.same (.boolean truth) := by
  refine ⟨?_, ?_, ?_⟩ <;> cases other <;>
    first | rfl | simp [Value.same, Value.sameScalar, Value.number?]

theorem beside_text {value : Value} {word : String} (spells : value.asText? = some word)
    (other : Value) : other.isLess (.text word) = other.isLess value ∧
      (Value.text word).isLess other = value.isLess other ∧
      other.same (.text word) = other.same value := by
  cases value <;> simp only [Value.asText?, Option.some.injEq, reduceCtorEq] at spells <;>
    subst spells <;> refine ⟨?_, ?_, ?_⟩ <;> cases other <;>
    first | rfl | simp [Value.same, Value.sameScalar, Value.number?, Value.asText?]

theorem beside_nan (value : Value) : value.isLess (.float .nan) = false ∧
    (Value.float .nan).isLess value = false ∧ value.same (.float .nan) = false := by
  have nan : (Value.float .nan).number? = some .nan := rfl
  have apart (number : ExactNumber) : number.less .nan = false ∧
      ExactNumber.nan.less number = false ∧ number.equals .nan = false := by
    rcases number with _ | (_ | _) | _ <;> exact ⟨rfl, rfl, rfl⟩
  refine ⟨?_, ?_, ?_⟩
  · unfold Value.isLess
    rw [nan]
    cases value.number? with
    | none => rfl
    | some number => exact (apart number).1
  · unfold Value.isLess
    rw [nan]
    cases value.number? with
    | none => rfl
    | some number => exact (apart number).2.1
  · have double : ExactNumber.ofDouble .nan = .nan := rfl
    cases value <;> simp [Value.same, Value.sameScalar, Value.number?, double, apart]

theorem full_toStored {moment : DateTime} (proper : moment.isProper = true) :
    (Cell.text moment.toStored).IsDated ∧
      (Cell.text moment.toStored).moment? .moment = some moment ∧
      (Cell.text moment.toStored).isShort .moment = false := by
  have stored : moment.IsStoredAs moment.toStored := ⟨proper, .inl rfl⟩
  have read : (Cell.text moment.toStored).moment? .moment = some moment := stored.read
  refine ⟨fun word same => ⟨moment, Cell.text.inj same ▸ stored⟩, read, ?_⟩
  simp [isShort, read]

/-- The cell that an operand is bound as stands for it, a moment in full. Not-a-number is bound as
null. -/
theorem bound_operand {value : Value} (takes : type.takes value = true) :
    (∃ bound, type.boundCell? value = some bound ∧ bound.isShort type = false ∧
        (type = .moment → bound.IsDated) ∧ ∀ other : Value,
          other.isLess (bound.worth type) = other.isLess value ∧
          (bound.worth type).isLess other = value.isLess other ∧
          other.same (bound.worth type) = other.same value) ∨
      type = .float ∧ value = .float .nan := by
  unfold ColumnType.takes at takes
  split at takes
  · rename_i number
    exact .inl ⟨.integer number, if_pos takes, rfl, nofun, fun _ => ⟨rfl, rfl, rfl⟩⟩
  · rename_i truth
    exact .inl ⟨_, rfl, rfl, nofun, beside_truth truth⟩
  · obtain ⟨word, spells⟩ := Option.isSome_iff_exists.mp takes
    refine .inl ⟨.text word, ?_, rfl, nofun, beside_text spells⟩
    rw [ColumnType.boundCell?, spells]
    rfl
  · rename_i truth
    exact .inl ⟨_, rfl, rfl, nofun, beside_truth truth⟩
  · rename_i number
    cases number with
    | nan => exact .inr ⟨rfl, rfl⟩
    | infinity negative => exact .inl ⟨_, rfl, rfl, nofun, fun _ => ⟨rfl, rfl, rfl⟩⟩
    | finite negative significand exponent =>
        exact .inl ⟨_, rfl, rfl, nofun, fun _ => ⟨rfl, rfl, rfl⟩⟩
  · rename_i number
    exact .inl ⟨.integer number, if_pos takes, rfl, nofun, fun _ => ⟨rfl, rfl, rfl⟩⟩
  · rename_i moment
    obtain ⟨dated, read, full⟩ := full_toStored takes
    refine .inl ⟨.text moment.toStored, rfl, full, fun _ => dated, fun other => ?_⟩
    rw [worth, read]
    exact ⟨rfl, rfl, rfl⟩
  · cases takes

end Cell

namespace Comparing

def AgreeOn (how other : Comparing) (type : ColumnType) (cell : Cell) : Prop :=
  ∀ value, type.takes value = true → how.equals type cell value = other.equals type cell value ∧
    how.below type cell value = other.below type cell value ∧
    how.above type cell value = other.above type cell value

variable {type : ColumnType} {cell : Cell}

theorem byCell_agreeOn_shortFirst (dated : type = .moment → cell.IsDated) :
    byCell.AgreeOn shortFirst type cell := by
  intro value takes
  rcases Cell.bound_operand takes with ⟨bound, isBound, full, boundDated, alike⟩ | ⟨rfl, rfl⟩
  · obtain ⟨before, behind, equal⟩ := alike (cell.worth type)
    simp only [byCell, isBound, Option.any_some]
    refine ⟨?_, ?_, ?_⟩
    · rw [Cell.same_eq_worth fun moments => ⟨dated moments, boundDated moments⟩, equal, full]
      simp [shortFirst, byValue]
    · rw [Cell.less_eq_shortFirst fun moments => ⟨dated moments, boundDated moments⟩]
      simp [shortFirst, byValue, before, equal, full]
    · rw [Cell.less_eq_shortFirst fun moments => ⟨boundDated moments, dated moments⟩]
      simp [shortFirst, byValue, behind, full]
  · simp [byCell, shortFirst, byValue, Cell.beside_nan, ColumnType.boundCell?]

theorem shortFirst_agreeOn_byValue (full : cell.isShort type = false) :
    shortFirst.AgreeOn byValue type cell := by
  intro value _
  simp [shortFirst, full]

theorem shortFirst_less_eq_byValue {other : Cell} (full : cell.isShort type = false) :
    shortFirst.less type cell other = byValue.less type cell other := by
  simp [shortFirst, full]

end Comparing
end RecordStore
