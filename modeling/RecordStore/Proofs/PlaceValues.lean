import RecordStore.Proofs.PlaceNames
import RecordStore.Proofs.StatementLexemes

/-!
The values that are read at the places of a text. A reader that goes through a text from the left to the
right takes one parameter for each place, so that it finds the values of all parameters, each once and in
their order.
-/

namespace RecordStore

def Lexeme.bound? : Lexeme → Option Value
  | .place value => some value
  | _ => none

namespace Scanner

variable {dialect : Dialect}

theorem bound?_ofWord (letters : List Char) : (Lexeme.ofWord letters).bound? = none := by
  unfold Lexeme.ofWord
  dsimp only
  split
  · rfl
  · split <;> rfl

theorem bound?_quotedLexeme (quote : Char) (letters : List Char) :
    (quotedLexeme quote letters).bound? = none := by
  unfold quotedLexeme
  split <;> rfl

theorem bound_last? {mode : Mode} {last : List Lexeme} (ended : mode.last? = some last) :
    last.filterMap Lexeme.bound? = [] := by
  unfold Mode.last? at ended
  split at ended
  · obtain rfl := Option.some.inj ended
    rfl
  · obtain rfl := Option.some.inj ended
    rw [List.filterMap_cons, bound?_ofWord, List.filterMap_nil]
  · split at ended
    · obtain rfl := Option.some.inj ended
      rw [List.filterMap_cons, bound?_quotedLexeme, List.filterMap_nil]
    · cases ended
  · cases ended

theorem bound_start {position : Nat} {parameters : List (String × Value)} {letter : Char}
    {lexemes : List Lexeme} {next : Scanner}
    (started : start dialect position parameters letter = some (lexemes, next)) :
    lexemes.filterMap Lexeme.bound? ++ next.parameters.map Prod.snd = parameters.map Prod.snd := by
  unfold start at started
  split_ifs at started
  · obtain ⟨rfl, rfl⟩ := Prod.mk.inj (Option.some.inj started)
    rfl
  · cases parameters with
    | nil => cases started
    | cons parameter rest =>
        obtain ⟨rfl, rfl⟩ := Prod.mk.inj (Option.some.inj started)
        rfl
  · obtain ⟨rfl, rfl⟩ := Prod.mk.inj (Option.some.inj started)
    rfl
  · obtain ⟨rfl, rfl⟩ := Prod.mk.inj (Option.some.inj started)
    rfl
  · obtain ⟨rfl, rfl⟩ := Prod.mk.inj (Option.some.inj started)
    rfl

theorem bound_startAfter {scanner next : Scanner} {letter : Char} {lexemes : List Lexeme}
    (started : startAfter dialect scanner letter = some (lexemes, next)) :
    lexemes.filterMap Lexeme.bound? ++ next.parameters.map Prod.snd =
      scanner.parameters.map Prod.snd := by
  obtain ⟨last, ended, rest⟩ := Option.bind_eq_some_iff.mp started
  obtain ⟨⟨early, following⟩, starts, made⟩ := Option.bind_eq_some_iff.mp rest
  obtain ⟨rfl, rfl⟩ := Prod.mk.inj (Option.some.inj made)
  rw [List.filterMap_append, bound_last? ended, List.nil_append]
  exact bound_start starts

theorem bound_step {scanner next : Scanner} {letter : Char} {lexemes : List Lexeme}
    (stepped : step dialect scanner letter = some (lexemes, next)) :
    lexemes.filterMap Lexeme.bound? ++ next.parameters.map Prod.snd =
      scanner.parameters.map Prod.snd := by
  obtain ⟨mode, position, parameters⟩ := scanner
  unfold step at stepped
  split at stepped
  · split at stepped
    · obtain ⟨rfl, rfl⟩ := Prod.mk.inj (Option.some.inj stepped)
      rfl
    · cases stepped
  · split at stepped
    · obtain ⟨rfl, rfl⟩ := Prod.mk.inj (Option.some.inj stepped)
      rfl
    · exact bound_startAfter stepped
  · split at stepped
    · obtain ⟨rfl, rfl⟩ := Prod.mk.inj (Option.some.inj stepped)
      rfl
    · obtain ⟨rfl, rfl⟩ := Prod.mk.inj (Option.some.inj stepped)
      rfl
  · split at stepped
    · obtain ⟨rfl, rfl⟩ := Prod.mk.inj (Option.some.inj stepped)
      rfl
    · exact bound_startAfter stepped
  · exact bound_startAfter stepped

theorem bound_scan {scanner next : Scanner} {letters : List Char} {lexemes : List Lexeme}
    (read : scan dialect scanner letters = some (lexemes, next)) :
    lexemes.filterMap Lexeme.bound? ++ next.parameters.map Prod.snd =
      scanner.parameters.map Prod.snd := by
  induction letters generalizing scanner lexemes with
  | nil =>
      obtain ⟨rfl, rfl⟩ := Prod.mk.inj (Option.some.inj read)
      rfl
  | cons letter letters ih =>
      obtain ⟨⟨early, middle⟩, stepped, rest⟩ := Option.bind_eq_some_iff.mp read
      obtain ⟨⟨later, last⟩, scanned, made⟩ := Option.bind_eq_some_iff.mp rest
      obtain ⟨rfl, rfl⟩ := Prod.mk.inj (Option.some.inj made)
      rw [List.filterMap_append, List.append_assoc, ih scanned, bound_step stepped]

end Scanner

theorem Token.Reads.bound {dialect : Dialect} {tokens : List Token} {lexemes : List Lexeme}
    (reads : Token.Reads dialect tokens lexemes) :
    lexemes.filterMap Lexeme.bound? = (Token.places tokens).map Prod.snd := by
  obtain ⟨mode, early, last, rests, rfl, scans⟩ := reads []
  have taken := Scanner.bound_scan (scans [])
  rw [List.append_nil, List.map_nil, List.append_nil] at taken
  rw [List.filterMap_append, Scanner.bound_last? rests.last?_eq, List.append_nil, taken,
    SqlText.values_behind]

namespace Test

theorem values_tokens (dialect : Dialect) (model : Model) (test : Test) :
    (Token.places (test.tokens dialect model)).map Prod.snd = test.operands := by
  cases test with
  | like column lowered escaping pattern => cases lowered <;> cases escaping <;> rfl
  | _ => rfl

theorem operands_equals (column : Attribute) (operand : Value) :
    (equals column operand).operands = [operand].filter (!isConstant ·) := by
  cases operand <;> rfl

end Test

theorem Predicate.values_whereTokens (dialect : Dialect) (model : Model)
    (predicates : List Predicate) :
    (Token.places (whereTokens dialect model predicates)).map Prod.snd =
      predicates.flatMap fun predicate => predicate.alternatives.flatMap Test.operands := by
  rw [places_whereTokens, List.map_flatMap]
  simp only [List.map_flatMap, Test.values_tokens]

/-- The operands of a clause that are bound: as many as its condition takes, without those that equality
writes as constants. -/
def Clause.boundOperands (clause : Clause) : List Value :=
  match clause.key with
  | .known .equality => (clause.operands.take 1).filter (!Test.isConstant ·)
  | .known .like => clause.operands.take 1
  | .known .between => clause.operands.take 2
  | .known .or => clause.operands.filter (!Test.isConstant ·)
  | .named .. => []

theorem flatMap_operands_equals (column : Attribute) (operands : List Value) :
    (operands.map (Test.equals column)).flatMap Test.operands =
      operands.filter (!Test.isConstant ·) := by
  induction operands with
  | nil => rfl
  | cons operand operands ih =>
      rw [List.map_cons, List.flatMap_cons, ih, Test.operands_equals, ← List.filter_append,
        List.singleton_append]

theorem Registry.operands_of_compileClause {model : Model} {clause : Clause} {predicate : Predicate}
    (compiled : standard.compileClause model clause = .ok predicate) :
    predicate.alternatives.flatMap Test.operands = clause.boundOperands := by
  obtain ⟨attr, _, applied⟩ := bind_eq_ok_iff.mp compiled
  obtain ⟨column, key, operands⟩ := clause
  cases makes_of_apply applied with
  | equality value rest => exact flatMap_operands_equals attr [value]
  | like => rfl
  | between => rfl
  | or => exact flatMap_operands_equals attr operands

theorem Registry.operands_of_compileClauses {model : Model} {clauses : List Clause}
    {predicates : List Predicate}
    (compiled : standard.compileClauses model clauses = .ok predicates) :
    (predicates.flatMap fun predicate => predicate.alternatives.flatMap Test.operands) =
      clauses.flatMap Clause.boundOperands := by
  have each : List.Forall₂ (fun clause predicate =>
      standard.compileClause model clause = .ok predicate) clauses predicates :=
    mapM_eq_ok_iff.mp compiled
  clear compiled
  induction each with
  | nil => rfl
  | cons first _ ih => rw [List.flatMap_cons, List.flatMap_cons, operands_of_compileClause first, ih]

end RecordStore
