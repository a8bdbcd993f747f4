import RecordStore.Proofs.SearchConditions
import RecordStore.Proofs.StatementLexemes

/-!
Reading the lexemes of tests back, and of tests joined by `OR` and `AND`.
-/

namespace RecordStore

def Attribute.operand (model : Model) (attr : Attribute) : Operand := .column model.table attr.column

namespace Test

def bound (dialect : Dialect) (type : BindType) (value : Value) : Operand :=
  .bound value (type.wordsIn dialect)

def reading (dialect : Dialect) (model : Model) : Test → SearchCondition
  | .isNull column => .isNull (column.operand model)
  | .isNotNull column => .isNotNull (column.operand model)
  | .isTruth column value => .compare .equal (column.operand model) (.constant (dialect.truth value))
  | .isNotTruth column value =>
    .compare .notEqual (column.operand model) (.constant (dialect.truth value))
  | .compare column comparison operand =>
    .compare comparison (column.operand model)
      (bound dialect (column.bindType.against operand) operand)
  | .like column lowered escaping pattern =>
    .like (if lowered then .applied "lower" model.table column.column else column.operand model)
      (bound dialect (if lowered then .ofValue pattern else column.bindType.against pattern) pattern)
      (if escaping then some (.literal "\\") else none)
  | .between column low high =>
    .between (column.operand model) (bound dialect (column.bindType.against low) low)
      (bound dialect (column.bindType.against high) high)

end Test

inductive Lexeme.EndsOperand : List Lexeme → Prop
  | nothing : EndsOperand []
  | keyword (keyword : Keyword) (rest : List Lexeme) : EndsOperand (.keyword keyword :: rest)
  | closing (rest : List Lexeme) : EndsOperand (.symbol ')' :: rest)
  | escape (name mark : String) (rest : List Lexeme) : EndsOperand (.name name :: .literal mark :: rest)

inductive Lexeme.EndsTest : List Lexeme → Prop
  | nothing : EndsTest []
  | both (rest : List Lexeme) : EndsTest (.keyword .both :: rest)
  | either (rest : List Lexeme) : EndsTest (.keyword .either :: rest)
  | closing (rest : List Lexeme) : EndsTest (.symbol ')' :: rest)

theorem Lexeme.EndsTest.endsOperand {rest : List Lexeme} (ends : EndsTest rest) : EndsOperand rest := by
  cases ends with
  | nothing => exact .nothing
  | both rest => exact .keyword .both rest
  | either rest => exact .keyword .either rest
  | closing rest => exact .closing rest

namespace Atom

variable {dialect : Dialect} {rest : List Lexeme}

theorem ofLexemes_place (ends : Lexeme.EndsOperand rest) (type : BindType) (value : Value) :
    ofLexemes (Token.placeLexemes dialect type value ++ rest) =
      .operand (Test.bound dialect type value) :: ofLexemes rest := by
  rcases dialect with _ | ⟨_ | _ | _⟩
  · cases ends <;> rfl
  · cases ends <;> rfl
  · cases type <;> cases ends <;> rfl
  · cases ends <;> rfl

theorem ofLexemes_truth (value : Bool) (rest : List Lexeme) :
    ofLexemes (dialect.truthLexeme value :: rest) =
      .operand (.constant (dialect.truth value)) :: ofLexemes rest := by
  rcases dialect with _ | ⟨_ | _ | _⟩ <;> cases value <;> rfl

end Atom

namespace Phrase

def ofLexemes (lexemes : List Lexeme) : Option (List Phrase) := ofAtoms (Atom.ofLexemes lexemes)

theorem ofLexemes_test {rest : List Lexeme} (ends : Lexeme.EndsTest rest) (dialect : Dialect)
    (model : Model) (test : Test) :
    ofLexemes (test.lexemes dialect model ++ rest) =
      (ofLexemes rest).map (.test (test.reading dialect model) :: ·) := by
  cases test with
  | isNull column => rfl
  | isNotNull column => rfl
  | isTruth column value =>
      show ofAtoms (.operand _ :: .symbol '=' :: Atom.ofLexemes (dialect.truthLexeme value :: rest)) = _
      rw [Atom.ofLexemes_truth]
      rfl
  | isNotTruth column value =>
      show ofAtoms (.operand _ :: .symbol '!' :: .symbol '=' ::
        Atom.ofLexemes (dialect.truthLexeme value :: rest)) = _
      rw [Atom.ofLexemes_truth]
      rfl
  | compare column comparison operand =>
      cases comparison with
      | equal =>
          show ofAtoms (.operand _ :: .symbol '=' ::
            Atom.ofLexemes (Token.placeLexemes dialect _ operand ++ rest)) = _
          rw [Atom.ofLexemes_place ends.endsOperand]
          rfl
      | notEqual =>
          show ofAtoms (.operand _ :: .symbol '!' :: .symbol '=' ::
            Atom.ofLexemes (Token.placeLexemes dialect _ operand ++ rest)) = _
          rw [Atom.ofLexemes_place ends.endsOperand]
          rfl
      | atLeast =>
          show ofAtoms (.operand _ :: .symbol '>' :: .symbol '=' ::
            Atom.ofLexemes (Token.placeLexemes dialect _ operand ++ rest)) = _
          rw [Atom.ofLexemes_place ends.endsOperand]
          rfl
  | like column lowered escaping pattern =>
      cases escaping with
      | true =>
          have read (type : BindType) : Atom.ofLexemes ((Token.placeLexemes dialect type pattern ++
              [.name "escape", .literal "\\"]) ++ rest) = .operand (Test.bound dialect type pattern) ::
              .name "escape" :: .operand (.literal "\\") :: Atom.ofLexemes rest := by
            rw [List.append_assoc]
            exact Atom.ofLexemes_place (.escape _ _ _) type pattern
          cases lowered with
          | true =>
              show ofAtoms (.operand _ :: .keyword .like :: Atom.ofLexemes ((_ ++ [_, _]) ++ rest)) = _
              rw [read]
              rfl
          | false =>
              show ofAtoms (.operand _ :: .keyword .like :: Atom.ofLexemes ((_ ++ [_, _]) ++ rest)) = _
              rw [read]
              rfl
      | false =>
          have read (type : BindType) : Atom.ofLexemes ((Token.placeLexemes dialect type pattern ++ []) ++
              rest) = .operand (Test.bound dialect type pattern) :: Atom.ofLexemes rest := by
            rw [List.append_nil]
            exact Atom.ofLexemes_place ends.endsOperand type pattern
          cases lowered with
          | true =>
              show ofAtoms (.operand _ :: .keyword .like :: Atom.ofLexemes ((_ ++ []) ++ rest)) = _
              rw [read]
              cases ends <;> rfl
          | false =>
              show ofAtoms (.operand _ :: .keyword .like :: Atom.ofLexemes ((_ ++ []) ++ rest)) = _
              rw [read]
              cases ends <;> rfl
  | between column low high =>
      show ofAtoms (.operand _ :: .keyword .between :: Atom.ofLexemes ((Token.placeLexemes dialect _ low ++
        (.keyword .both :: Token.placeLexemes dialect _ high)) ++ rest)) = _
      rw [List.append_assoc, List.cons_append, Atom.ofLexemes_place (.keyword _ _)]
      show ofAtoms (.operand _ :: .keyword .between :: .operand _ :: .keyword .both ::
        Atom.ofLexemes (Token.placeLexemes dialect _ high ++ rest)) = _
      rw [Atom.ofLexemes_place ends.endsOperand]
      rfl

/-- Lexemes are read as phrases, whatever stands behind them. -/
def Reads (lexemes : List Lexeme) (phrases : List Phrase) : Prop :=
  ∀ rest, Lexeme.EndsTest rest → ofLexemes (lexemes ++ rest) = (ofLexemes rest).map (phrases ++ ·)

theorem reads_test (dialect : Dialect) (model : Model) (test : Test) :
    Reads (test.lexemes dialect model) [.test (test.reading dialect model)] :=
  fun _ ends => ofLexemes_test ends dialect model test

theorem Reads.group {lexemes : List Lexeme} {phrases : List Phrase} (reads : Reads lexemes phrases) :
    Reads ([.symbol '('] ++ (lexemes ++ [.symbol ')'])) (.opens :: (phrases ++ [.closes])) := by
  intro rest ends
  have inside := reads (.symbol ')' :: rest) (.closing rest)
  show (ofLexemes ((lexemes ++ [.symbol ')']) ++ rest)).map (.opens :: ·) = _
  rw [List.append_assoc, List.singleton_append, inside]
  show (((ofLexemes rest).map (.closes :: ·)).map _).map _ = _
  cases ofLexemes rest with
  | none => rfl
  | some later => simp

theorem Reads.join {keyword : Keyword} {between : Phrase}
    (ends : ∀ rest, Lexeme.EndsTest (.keyword keyword :: rest))
    (reads : ∀ rest, ofLexemes (.keyword keyword :: rest) = (ofLexemes rest).map (between :: ·))
    {α : Type} {lexemes : α → List Lexeme} {phrases : α → List Phrase} {items : List α}
    (each : ∀ item ∈ items, Reads (lexemes item) (phrases item)) :
    Reads ([.keyword keyword].intercalate (items.map lexemes))
      ([between].intercalate (items.map phrases)) := by
  induction items with
  | nil =>
      intro rest _
      simp
  | cons first items ih =>
      obtain ⟨readsFirst, readsRest⟩ := List.forall_mem_cons.mp each
      cases items with
      | nil => simpa using readsFirst
      | cons second items =>
          intro rest endsTest
          have later := ih readsRest rest endsTest
          simp only [List.map_cons] at later
          simp only [List.map_cons, List.intercalate_cons_cons, List.append_assoc,
            List.singleton_append]
          rw [List.cons_append, readsFirst _ (ends _), reads, later]
          cases ofLexemes rest with
          | none => rfl
          | some later => simp

end Phrase

namespace SearchCondition

variable (outer : List Level) (rest : List Phrase)

theorem readFrom_alternatives (before init : List SearchCondition) (last : SearchCondition) :
    readFrom outer ⟨before, []⟩ true
        ([Phrase.either].intercalate ((init ++ [last]).map fun condition => [.test condition]) ++ rest) =
      readFrom outer ⟨before ++ init, [last]⟩ false rest := by
  induction init generalizing before with
  | nil => simp [readFrom, Level.add]
  | cons first init ih =>
      obtain ⟨second, others, shape⟩ : ∃ second others, init ++ [last] = second :: others := by
        cases init <;> exact ⟨_, _, rfl⟩
      have later := ih (before ++ [first])
      rw [shape, List.append_assoc, List.singleton_append] at later
      rw [List.cons_append, shape, ← later]
      simp [readFrom, Level.add, Level.turn, chain]

theorem readFrom_alone {conditions : List SearchCondition} (nonempty : conditions ≠ []) :
    readFrom [] .empty true ([Phrase.either].intercalate (conditions.map fun condition =>
      [.test condition])) = chain .either conditions := by
  rw [← List.dropLast_append_getLast nonempty]
  have read := readFrom_alternatives [] [] [] conditions.dropLast (conditions.getLast nonempty)
  rw [List.append_nil] at read
  exact read

theorem readFrom_group {conditions : List SearchCondition} {condition : SearchCondition}
    (nonempty : conditions ≠ []) (chained : chain .either conditions = some condition) (level : Level) :
    readFrom outer level true (.opens :: ([Phrase.either].intercalate (conditions.map fun condition =>
      [.test condition]) ++ .closes :: rest)) = readFrom outer (level.add condition) false rest := by
  rw [← List.dropLast_append_getLast nonempty] at chained ⊢
  rw [readFrom]
  show readFrom (level :: outer) ⟨[], []⟩ true _ = _
  rw [readFrom_alternatives, readFrom]
  show (chain .either (conditions.dropLast ++ [conditions.getLast nonempty]) >>= _) = _
  rw [chained]
  rfl

theorem conjuncts_chain_both {conditions : List SearchCondition} {condition : SearchCondition}
    (single : ∀ factor ∈ conditions, factor.conjuncts = [factor])
    (chained : chain .both conditions = some condition) : condition.conjuncts = conditions := by
  induction conditions generalizing condition with
  | nil => cases chained
  | cons first rest ih =>
      obtain ⟨singleFirst, singleRest⟩ := List.forall_mem_cons.mp single
      cases rest with
      | nil =>
          obtain rfl := Option.some.inj chained
          exact singleFirst
      | cons second rest =>
          obtain ⟨later, chainedRest, rfl⟩ := Option.map_eq_some_iff.mp chained
          rw [conjuncts, singleFirst, ih singleRest chainedRest, List.singleton_append]

theorem conjuncts_chain_either {conditions : List SearchCondition} {condition : SearchCondition}
    (single : ∀ alternative ∈ conditions, alternative.conjuncts = [alternative])
    (chained : chain .either conditions = some condition) : condition.conjuncts = [condition] := by
  rcases conditions with _ | ⟨first, _ | ⟨second, rest⟩⟩
  · cases chained
  · obtain rfl := Option.some.inj chained
    exact single first List.mem_cons_self
  · obtain ⟨later, _, rfl⟩ := Option.map_eq_some_iff.mp chained
    rfl

theorem isSome_chain (join : SearchCondition → SearchCondition → SearchCondition)
    {conditions : List SearchCondition} (nonempty : conditions ≠ []) :
    ∃ condition, chain join conditions = some condition := by
  induction conditions with
  | nil => exact absurd rfl nonempty
  | cons first rest ih =>
      cases rest with
      | nil => exact ⟨first, rfl⟩
      | cons second rest =>
          obtain ⟨later, chained⟩ := ih (List.cons_ne_nil _ _)
          exact ⟨join first later, congrArg (Option.map (join first)) chained⟩

theorem readFrom_factors {α : Type} {phrases : α → List Phrase} {items : List α}
    {conditions : List SearchCondition} (nonempty : items ≠ []) (before : List SearchCondition)
    (reads : List.Forall₂ (fun item condition => ∀ level rest,
      readFrom [] level true (phrases item ++ rest) = readFrom [] (level.add condition) false rest)
      items conditions) :
    readFrom [] ⟨[], before⟩ true ([Phrase.both].intercalate (items.map phrases)) =
      chain .both (before ++ conditions) := by
  induction reads generalizing before with
  | nil => exact absurd rfl nonempty
  | @cons item condition items conditions first rest ih =>
      cases rest with
      | nil =>
          have read := first ⟨[], before⟩ []
          rw [List.append_nil] at read
          rw [List.map_singleton, List.intercalate_singleton, read]
          show (chain .both (before ++ [condition]) >>= fun last => chain .either [last]) = _
          cases chain .both (before ++ [condition]) <;> rfl
      | @cons second other items conditions _ _ =>
          have later := ih (List.cons_ne_nil _ _) (before ++ [condition])
          rw [List.append_assoc, List.singleton_append] at later
          rw [List.map_cons, List.map_cons, List.intercalate_cons_cons, List.append_assoc, first, ← later]
          rfl

end SearchCondition

end RecordStore
