import RecordStore.Proofs.Outcome
import RecordStore.Proofs.PhraseReading
import RecordStore.Model.Samples

/-!
The restriction of a selection, read back, is the conjunction of what its predicates say when each
stands alone.
-/

namespace RecordStore

namespace Predicate

variable {dialect : Dialect} {model : Model} {predicate : Predicate}

def reading? (dialect : Dialect) (model : Model) (predicate : Predicate) : Option SearchCondition :=
  SearchCondition.chain .either (predicate.alternatives.map (Test.reading dialect model))

theorem conjuncts_reading (test : Test) :
    (test.reading dialect model).conjuncts = [test.reading dialect model] := by
  cases test <;> rfl

theorem conjuncts_of_reading? {condition : SearchCondition}
    (reads : predicate.reading? dialect model = some condition) : condition.conjuncts = [condition] := by
  refine SearchCondition.conjuncts_chain_either (fun alternative listed => ?_) reads
  obtain ⟨test, _, rfl⟩ := List.mem_map.mp listed
  exact conjuncts_reading test

def phrases (dialect : Dialect) (model : Model) (predicate : Predicate) : List Phrase :=
  [Phrase.either].intercalate (predicate.alternatives.map fun test =>
    [Phrase.test (test.reading dialect model)])

def groupedPhrases (dialect : Dialect) (model : Model) (predicate : Predicate) : List Phrase :=
  match predicate.alternatives with
  | _ :: _ :: _ => .opens :: (predicate.phrases dialect model ++ [.closes])
  | _ => predicate.phrases dialect model

theorem reads_lexemes (predicate : Predicate) :
    Phrase.Reads (predicate.lexemes dialect model) (predicate.phrases dialect model) :=
  Phrase.Reads.join .either (fun _ => rfl) fun test _ => Phrase.reads_test dialect model test

theorem reads_groupedLexemes (predicate : Predicate) :
    Phrase.Reads (predicate.groupedLexemes dialect model) (predicate.groupedPhrases dialect model) := by
  have alone : Phrase.Reads (predicate.lexemes dialect model) _ := reads_lexemes predicate
  rcases predicate with ⟨_ | ⟨first, _ | ⟨second, rest⟩⟩⟩
  · exact alone
  · exact alone
  · exact alone.group

theorem readFrom_phrases (restricts : predicate.isVoid = false) :
    SearchCondition.readFrom [] .empty true (predicate.phrases dialect model) =
      predicate.reading? dialect model := by
  have nonempty : predicate.alternatives.map (Test.reading dialect model) ≠ [] := by
    simpa [isVoid] using restricts
  have read := SearchCondition.readFrom_alone nonempty
  rw [List.map_map] at read
  exact read

theorem readFrom_groupedPhrases {condition : SearchCondition}
    (reads : predicate.reading? dialect model = some condition) (level : Level) (rest : List Phrase) :
    SearchCondition.readFrom [] level true (predicate.groupedPhrases dialect model ++ rest) =
      SearchCondition.readFrom [] (level.add condition) false rest := by
  rcases predicate with ⟨_ | ⟨first, _ | ⟨second, others⟩⟩⟩
  · cases reads
  · obtain rfl := Option.some.inj reads
    rfl
  · have read := SearchCondition.readFrom_group [] rest (by simp) reads level
    rw [List.map_map] at read
    show SearchCondition.readFrom [] level true (.opens :: ((_ ++ [.closes]) ++ rest)) = _
    rw [List.append_assoc]
    exact read

theorem ofLexemes?_lexemes (restricts : predicate.isVoid = false) :
    SearchCondition.ofLexemes? (predicate.lexemes dialect model) = predicate.reading? dialect model := by
  have phrased : Phrase.Reads (predicate.lexemes dialect model) _ := reads_lexemes predicate
  have written := phrased [] .nothing
  rw [List.append_nil] at written
  show (Phrase.ofLexemes (predicate.lexemes dialect model) >>= _) = _
  rw [written]
  show SearchCondition.readFrom [] .empty true (predicate.phrases dialect model ++ []) = _
  rw [List.append_nil, readFrom_phrases restricts]

theorem condition?_render (restricts : predicate.isVoid = false) :
    (predicate.render dialect model).condition? dialect = predicate.reading? dialect model := by
  rw [SqlText.condition?, lexemes?_render dialect model restricts]
  exact ofLexemes?_lexemes restricts

theorem isSome_reading? (restricts : predicate.isVoid = false) :
    ∃ condition, predicate.reading? dialect model = some condition := by
  refine SearchCondition.isSome_chain .either ?_
  simpa [isVoid] using restricts

theorem exists_readings (dialect : Dialect) (model : Model) (predicates : List Predicate) :
    ∃ conjuncts, List.Forall₂ (fun predicate condition =>
      predicate.reading? dialect model = some condition) (kept predicates) conjuncts := by
  have restrict : ∀ predicate ∈ kept predicates, predicate.isVoid = false := by
    intro predicate listed
    simpa using (List.mem_filter.mp listed).2
  generalize kept predicates = given at restrict ⊢
  induction given with
  | nil => exact ⟨[], .nil⟩
  | cons first rest ih =>
      obtain ⟨restrictsFirst, restrictRest⟩ := List.forall_mem_cons.mp restrict
      obtain ⟨condition, read⟩ : ∃ condition, first.reading? dialect model = some condition :=
        isSome_reading? restrictsFirst
      obtain ⟨conjuncts, reads⟩ := ih restrictRest
      exact ⟨condition :: conjuncts, .cons read reads⟩

theorem conjuncts_of_mem_readings {predicates : List Predicate} {conjuncts : List SearchCondition}
    (reads : List.Forall₂ (fun predicate condition =>
      predicate.reading? dialect model = some condition) predicates conjuncts) :
    ∀ condition ∈ conjuncts, condition.conjuncts = [condition] := by
  induction reads with
  | nil => simp
  | cons first rest ih => exact List.forall_mem_cons.mpr ⟨conjuncts_of_reading? first, ih⟩

theorem conjunctionLexemes_singleton (restricts : predicate.isVoid = false) :
    conjunctionLexemes dialect model [predicate] = predicate.lexemes dialect model := by
  have alone : kept [predicate] = [predicate] := by simp [kept, restricts]
  rw [conjunctionLexemes, alone]
  simp [lexemesAmong]

theorem ofLexemes?_conjunction_of_many {predicates : List Predicate} {conjuncts : List SearchCondition}
    (many : ¬predicates.length ≤ 1) (restricts : kept predicates ≠ [])
    (reads : List.Forall₂ (fun predicate condition =>
      predicate.reading? dialect model = some condition) (kept predicates) conjuncts) :
    SearchCondition.ofLexemes? (conjunctionLexemes dialect model predicates) =
      SearchCondition.chain .both conjuncts := by
  have phrased : Phrase.Reads (conjunctionLexemes dialect model predicates)
      ([Phrase.both].intercalate ((kept predicates).map (groupedPhrases dialect model))) := by
    refine Phrase.Reads.join .both (fun _ => rfl) fun predicate _ => ?_
    rw [lexemesAmong, if_neg many]
    exact reads_groupedLexemes predicate
  have written := phrased [] .nothing
  rw [List.append_nil] at written
  have factors := SearchCondition.readFrom_factors restricts []
    (reads.imp fun predicate condition read => readFrom_groupedPhrases read)
  show (Phrase.ofLexemes (conjunctionLexemes dialect model predicates) >>= _) = _
  rw [written]
  show SearchCondition.readFrom [] .empty true (_ ++ []) = _
  rw [List.append_nil]
  exact factors

theorem exists_conjunction {predicates : List Predicate} {conjuncts : List SearchCondition}
    (restricts : kept predicates ≠ [])
    (reads : List.Forall₂ (fun predicate condition =>
      predicate.reading? dialect model = some condition) (kept predicates) conjuncts) :
    ∃ condition, SearchCondition.ofLexemes? (conjunctionLexemes dialect model predicates) =
      some condition ∧ condition.conjuncts = conjuncts := by
  -- Parentheses depend on how many predicates were given, with those that restrict nothing.
  by_cases few : predicates.length ≤ 1
  · obtain ⟨only, rfl⟩ : ∃ only, predicates = [only] := by
      rcases predicates with _ | ⟨only, _ | ⟨second, rest⟩⟩
      · exact absurd rfl restricts
      · exact ⟨only, rfl⟩
      · simp at few
    have notVoid : only.isVoid = false := by simpa [kept] using restricts
    have alone : kept [only] = [only] := by simp [kept, notVoid]
    rw [alone] at reads
    obtain ⟨condition, _, read, rest, rfl⟩ := List.forall₂_cons_left_iff.mp reads
    obtain rfl := List.forall₂_nil_left_iff.mp rest
    refine ⟨condition, ?_, conjuncts_of_reading? read⟩
    rw [conjunctionLexemes_singleton notVoid, ofLexemes?_lexemes notVoid, read]
  · have nonempty : conjuncts ≠ [] := by
      rintro rfl
      exact restricts (List.forall₂_nil_right_iff.mp reads)
    obtain ⟨condition, chained⟩ := SearchCondition.isSome_chain .both nonempty
    have single := conjuncts_of_mem_readings reads
    refine ⟨condition, ?_, SearchCondition.conjuncts_chain_both single chained⟩
    rw [ofLexemes?_conjunction_of_many few restricts reads, chained]

end Predicate

theorem Lexeme.opensRestriction_eq_false {lexeme : Lexeme} (other : lexeme ≠ .keyword .restrict) :
    lexeme.opensRestriction = false := by
  unfold opensRestriction
  split
  · exact absurd rfl other
  · rfl

def Lexeme.allStay (lexemes : List Lexeme) : Bool := lexemes.all fun lexeme => !lexeme.endsRestriction

theorem Lexeme.allStay_append (left right : List Lexeme) :
    allStay (left ++ right) = (allStay left && allStay right) := List.all_append

section Inside

variable (dialect : Dialect) (model : Model)

theorem allStay_placeLexemes (type : BindType) (value : Value) :
    Lexeme.allStay (Token.placeLexemes dialect type value) = true := by
  rcases dialect with _ | ⟨_ | _ | _⟩
  · rfl
  · rfl
  · cases type <;> rfl
  · rfl

theorem Test.allStay_lexemes (test : Test) : Lexeme.allStay (test.lexemes dialect model) = true := by
  have column (attr : Attribute) : Lexeme.allStay (attr.lexemes model) = true := rfl
  have place := allStay_placeLexemes dialect
  cases test with
  | isNull attr => rfl
  | isNotNull attr => rfl
  | isTruth attr value => rcases dialect with _ | ⟨_ | _ | _⟩ <;> cases value <;> rfl
  | isNotTruth attr value => rcases dialect with _ | ⟨_ | _ | _⟩ <;> cases value <;> rfl
  | compare attr comparison operand =>
      have sign : Lexeme.allStay comparison.lexemes = true := by cases comparison <;> rfl
      rw [lexemes, Lexeme.allStay_append, Lexeme.allStay_append, column, sign, place]
      rfl
  | like attr lowered escaping pattern =>
      have subject : Lexeme.allStay (if lowered then
          [.name "lower", .symbol '('] ++ attr.lexemes model ++ [.symbol ')']
        else attr.lexemes model) = true := by cases lowered <;> rfl
      have mark : Lexeme.allStay (if escaping then [.name "escape", .literal "\\"] else []) = true := by
        cases escaping <;> rfl
      rw [lexemes, Lexeme.allStay_append, Lexeme.allStay_append, Lexeme.allStay_append, subject, place,
        mark]
      rfl
  | between attr low high =>
      rw [lexemes, Lexeme.allStay_append, Lexeme.allStay_append, Lexeme.allStay_append,
        Lexeme.allStay_append, column, place, place]
      rfl

theorem Lexeme.allStay_intercalate {separator : List Lexeme} {pieces : List (List Lexeme)}
    (between : allStay separator = true) (inside : ∀ piece ∈ pieces, allStay piece = true) :
    allStay (separator.intercalate pieces) = true := by
  refine List.all_eq_true.mpr (forall_mem_intercalate (List.all_eq_true.mp between) ?_)
  exact fun piece listed => List.all_eq_true.mp (inside piece listed)

theorem Predicate.allStay_lexemes (predicate : Predicate) :
    Lexeme.allStay (predicate.lexemes dialect model) = true := by
  refine Lexeme.allStay_intercalate rfl fun piece listed => ?_
  obtain ⟨test, _, rfl⟩ := List.mem_map.mp listed
  exact test.allStay_lexemes dialect model

theorem Predicate.allStay_groupedLexemes (predicate : Predicate) :
    Lexeme.allStay (predicate.groupedLexemes dialect model) = true := by
  have alone := predicate.allStay_lexemes dialect model
  unfold groupedLexemes
  split
  · rw [Lexeme.allStay_append, Lexeme.allStay_append, alone]
    rfl
  · exact alone

theorem Predicate.allStay_conjunctionLexemes (predicates : List Predicate) :
    Lexeme.allStay (conjunctionLexemes dialect model predicates) = true := by
  refine Lexeme.allStay_intercalate rfl fun piece listed => ?_
  obtain ⟨predicate, _, rfl⟩ := List.mem_map.mp listed
  unfold lexemesAmong
  split
  · exact predicate.allStay_lexemes dialect model
  · exact predicate.allStay_groupedLexemes dialect model

end Inside

theorem takeWhile_tail {tail : List Lexeme} (isTail : Lexeme.IsTail tail) :
    tail.takeWhile (fun lexeme => !lexeme.endsRestriction) = [] := by
  cases tail with
  | nil => rfl
  | cons first rest =>
      rcases isTail.ends first rfl with rfl | rfl <;> rfl

theorem Selection.restriction?_render (dialect : Dialect) (selection : Selection) : ∃ conjuncts,
    (selection.render dialect).restriction? dialect = some conjuncts ∧
    List.Forall₂ (fun predicate conjunct =>
      predicate.reading? dialect selection.model = some conjunct)
      (Predicate.kept selection.predicates) conjuncts := by
  obtain ⟨tail, read, isTail⟩ := selection.lexemes?_render dialect
  obtain ⟨conjuncts, reads⟩ :=
    Predicate.exists_readings dialect selection.model selection.predicates
  refine ⟨conjuncts, ?_, reads⟩
  have head : ∀ lexeme ∈ selection.model.headLexemes, (!lexeme.opensRestriction) = true := by
    intro lexeme listed
    rw [Lexeme.opensRestriction_eq_false (headLexemes_noKeyword selection.model .restrict lexeme listed)]
    rfl
  -- Without predicates nothing may be taken for a restriction, not even in the order or the window.
  have behind : ∀ lexeme ∈ tail, (!lexeme.opensRestriction) = true := by
    intro lexeme listed
    rw [Lexeme.opensRestriction_eq_false (isTail.opensNone lexeme listed)]
    rfl
  rw [SqlText.restriction?, read, Option.bind_eq_bind, Option.bind_some]
  by_cases restricts : Predicate.kept selection.predicates = []
  · rw [restricts] at reads
    obtain rfl := List.forall₂_nil_left_iff.mp reads
    have unrestricted : Predicate.whereLexemes dialect selection.model selection.predicates = [] := by
      rw [Predicate.whereLexemes, restricts]
      rfl
    have skipped : (selection.model.headLexemes ++ [] ++ tail).dropWhile
        (fun lexeme : Lexeme => !lexeme.opensRestriction) = [] := by
      rw [List.append_nil, List.dropWhile_append_of_pos head, ← List.append_nil tail,
        List.dropWhile_append_of_pos behind, List.dropWhile_nil]
    rw [unrestricted, skipped]
  · obtain ⟨condition, conditioned, conjoined⟩ :=
      Predicate.exists_conjunction restricts reads
    have restricted : Predicate.whereLexemes dialect selection.model selection.predicates =
        .keyword .restrict ::
          Predicate.conjunctionLexemes dialect selection.model selection.predicates := by
      rw [Predicate.whereLexemes, if_neg (by simpa using restricts)]
    have skipped : (selection.model.headLexemes ++ (.keyword .restrict ::
        Predicate.conjunctionLexemes dialect selection.model selection.predicates) ++ tail).dropWhile
          (fun lexeme : Lexeme => !lexeme.opensRestriction) = .keyword .restrict ::
            (Predicate.conjunctionLexemes dialect selection.model selection.predicates ++ tail) := by
      rw [List.append_assoc, List.dropWhile_append_of_pos head]
      rfl
    have stay := List.all_eq_true.mp
      (Predicate.allStay_conjunctionLexemes dialect selection.model selection.predicates)
    rw [restricted, skipped]
    dsimp only
    rw [List.takeWhile_append_of_pos stay, takeWhile_tail isTail, List.append_nil, conditioned,
      Option.bind_eq_bind, Option.bind_some, conjoined]
    rfl

def Clause.restricts (clause : Clause) : Bool :=
  !(clause.key == .known .or && clause.operands.isEmpty)

theorem Registry.restricts_of_compileClause {model : Model} {clause : Clause} {predicate : Predicate}
    (compiled : standard.compileClause model clause = .ok predicate) :
    clause.restricts = !predicate.isVoid := by
  obtain ⟨attr, _, applied⟩ := bind_eq_ok_iff.mp compiled
  obtain ⟨column, key, operands⟩ := clause
  cases makes_of_apply applied with
  | equality => rfl
  | like => rfl
  | between => rfl
  | or => simp [Clause.restricts, Predicate.isVoid]

theorem forall₂_compose {α β γ : Type} {First : α → β → Prop} {Second : β → γ → Prop}
    {left : List α} {middle : List β} {right : List γ} (first : List.Forall₂ First left middle)
    (second : List.Forall₂ Second middle right) :
    List.Forall₂ (fun item result => ∃ between, First item between ∧ Second between result) left right := by
  induction first generalizing right with
  | nil =>
      obtain rfl := List.forall₂_nil_left_iff.mp second
      exact .nil
  | cons related _ ih =>
      obtain ⟨result, results, relatedToo, rest, rfl⟩ := List.forall₂_cons_left_iff.mp second
      exact .cons ⟨_, related, relatedToo⟩ (ih rest)

/-- The restriction of a selection is read back as one conjunct for each clause that restricts
anything, in their order: the one that the clause is read as when it stands alone. -/
theorem restriction_reads_as_its_clauses (model : Model) {clauses : List Clause}
    {predicates : List Predicate}
    (compiled : Registry.standard.compileClauses model clauses = .ok predicates)
    {terms : List SortTerm} {order : List (Attribute × Option Direction)}
    (resolved : SortTerm.resolve model terms = .ok order) (limit offset : Int) (dialect : Dialect) :
    ∃ selection conjuncts,
      buildSelection .standard model clauses terms limit offset = .ok selection ∧
      (selection.render dialect).restriction? dialect = some conjuncts ∧
      List.Forall₂ (fun clause conjunct => ∃ predicate,
        Registry.standard.compileClause model clause = .ok predicate ∧
        predicate.reading? dialect model = some conjunct ∧
        (predicate.render dialect model).condition? dialect = some conjunct)
        (clauses.filter Clause.restricts) conjuncts := by
  have built : buildSelection .standard model clauses terms limit offset =
      .ok ⟨model, predicates, order, positiveBound limit, positiveBound offset⟩ := by
    rw [buildSelection, compiled, ok_bind, resolved, ok_bind]
    rfl
  obtain ⟨conjuncts, read, reads⟩ := Selection.restriction?_render dialect
    ⟨model, predicates, order, positiveBound limit, positiveBound offset⟩
  refine ⟨_, conjuncts, built, read, ?_⟩
  have kept : List.Forall₂ (fun clause predicate =>
      Registry.standard.compileClause model clause = .ok predicate) (clauses.filter Clause.restricts)
      (Predicate.kept predicates) := by
    refine List.rel_filter (fun clause predicate compiled => ?_) (mapM_eq_ok_iff.mp compiled)
    show clause.restricts = true ↔ (!predicate.isVoid) = true
    rw [Registry.restricts_of_compileClause compiled]
  refine (forall₂_compose kept reads).imp ?_
  rintro clause conjunct ⟨predicate, compiled, said⟩
  refine ⟨predicate, compiled, said, ?_⟩
  have notVoid : predicate.isVoid = false := by
    rcases predicate with ⟨_ | ⟨first, rest⟩⟩
    · cases said
    · rfl
  rw [Predicate.condition?_render notVoid, said]

def neighbours : List Clause := [
  ⟨"Mixed", .known .or, [.text "a", .null]⟩, ⟨"Mixed", .known .or, []⟩,
  ⟨"order", .known .between, [.integer 1, .integer 5]⟩, ⟨"flag", .known .or, [.boolean true, .null]⟩]

theorem neighbours_are_read_apart : ∃ selection conjuncts,
    buildSelection .standard Samples.odd neighbours [⟨"order", some .descending⟩] 2 1 = .ok selection ∧
    (selection.render (.adapter .mysql)).restriction? (.adapter .mysql) = some conjuncts ∧
    conjuncts.length = 3 := by
  have compiled : Registry.standard.compileClauses Samples.odd neighbours = .ok _ := rfl
  have resolved : SortTerm.resolve Samples.odd [⟨"order", some .descending⟩] = .ok _ := rfl
  obtain ⟨selection, conjuncts, built, read, reads⟩ :=
    restriction_reads_as_its_clauses Samples.odd compiled resolved 2 1 (.adapter .mysql)
  exact ⟨selection, conjuncts, built, read, reads.length_eq.symm⟩

end RecordStore
