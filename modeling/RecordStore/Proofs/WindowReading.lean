import RecordStore.Proofs.PlaceValues
import RecordStore.Proofs.RestrictionReading

/-!
The window of a selection, read from its text, and with it all places of a selection: those of its
clauses, each clause's in their order, and behind them those of the window.
-/

namespace RecordStore

inductive Bound where
  | unset
  | value (value : Value)
  | constant (text : String)

namespace Bound

def value? : Bound → Option Value
  | .value held => some held
  | _ => none

def ofAtoms? : List Atom → Option (Bound × List Atom)
  | .operand (.bound held _) :: rest => some (.value held, rest)
  | .operand (.constant text) :: rest => some (.constant text, rest)
  | .symbol '-' :: .operand (.constant text) :: rest => some (.constant ("-" ++ text), rest)
  | .name "all" :: rest => some (.constant "all", rest)
  | _ => none

end Bound

structure StatementWindow where
  limit : Bound
  offset : Bound

namespace StatementWindow

/-- Behind `LIMIT` stands the limit, unless a comma follows: then it is the offset. -/
def ofAtoms? : List Atom → Option StatementWindow
  | [] => some ⟨.unset, .unset⟩
  | .keyword .cut :: atoms =>
    match Bound.ofAtoms? atoms with
    | some (limit, []) => some ⟨limit, .unset⟩
    | some (limit, .name "offset" :: atoms) =>
      match Bound.ofAtoms? atoms with
      | some (offset, []) => some ⟨limit, offset⟩
      | _ => none
    | some (offset, .symbol ',' :: atoms) =>
      match Bound.ofAtoms? atoms with
      | some (limit, []) => some ⟨limit, offset⟩
      | _ => none
    | _ => none
  | _ => none

def values (dialect : Dialect) (window : StatementWindow) : List Value :=
  match dialect with
  | .adapter .mysql => [window.offset, window.limit].filterMap Bound.value?
  | _ => [window.limit, window.offset].filterMap Bound.value?

end StatementWindow

namespace Dialect

def unlimited : Dialect → Bound
  | .generic => .constant "-1"
  | .adapter .sqlite => .value (.integer (-1))
  | .adapter .mysql => .constant "18446744073709551615"
  | .adapter .postgres => .constant "all"

def noOffset : Dialect → Bound
  | .adapter .sqlite => .value (.integer 0)
  | _ => .unset

def window (dialect : Dialect) (limit offset : Int) : StatementWindow where
  limit := if 0 < limit then .value (.integer limit)
    else if 0 < offset then dialect.unlimited else .unset
  offset := if 0 < offset then .value (.integer offset)
    else if 0 < limit then dialect.noOffset else .unset

end Dialect

def Lexeme.opensWindow : Lexeme → Bool
  | .keyword .cut => true
  | _ => false

def SqlText.window? (dialect : Dialect) (sql : SqlText) : Option StatementWindow := do
  let lexemes ← sql.lexemes? dialect
  StatementWindow.ofAtoms? (Atom.ofLexemes (lexemes.dropWhile fun lexeme => !lexeme.opensWindow))

section Window

variable (dialect : Dialect) (limit offset : Int)

theorem ofAtoms?_windowLexemes :
    StatementWindow.ofAtoms? (Atom.ofLexemes
      (windowLexemes dialect (positiveBound limit) (positiveBound offset))) =
      some (dialect.window limit offset) := by
  unfold positiveBound Dialect.window
  split_ifs <;> rcases dialect with _ | ⟨_ | _ | _⟩ <;> rfl

theorem values_windowTokens :
    (Token.places (windowTokens dialect (positiveBound limit) (positiveBound offset))).map Prod.snd =
      (dialect.window limit offset).values dialect := by
  unfold positiveBound Dialect.window
  split_ifs <;> rcases dialect with _ | ⟨_ | _ | _⟩ <;> rfl

end Window

namespace Lexeme

theorem opensWindow_eq_false {lexeme : Lexeme} (other : lexeme ≠ .keyword .cut) :
    lexeme.opensWindow = false := by
  unfold opensWindow
  split
  · exact absurd rfl other
  · rfl

theorem opensWindow_of_stays {lexeme : Lexeme} (stays : (!lexeme.endsRestriction) = true) :
    lexeme.opensWindow = false := by
  refine opensWindow_eq_false ?_
  rintro rfl
  cases stays

end Lexeme

theorem Predicate.whereLexemes_opensNoWindow (dialect : Dialect) (model : Model)
    (predicates : List Predicate) :
    ∀ lexeme ∈ whereLexemes dialect model predicates, lexeme.opensWindow = false := by
  unfold whereLexemes
  split
  · simp
  · refine List.forall_mem_cons.mpr ⟨rfl, fun lexeme listed => ?_⟩
    have stay := List.all_eq_true.mp (allStay_conjunctionLexemes dialect model predicates)
    exact Lexeme.opensWindow_of_stays (stay lexeme listed)

theorem dropWhile_windowLexemes (dialect : Dialect) (limit offset : Option Int) :
    (windowLexemes dialect limit offset).dropWhile (fun lexeme => !lexeme.opensWindow) =
      windowLexemes dialect limit offset := by
  rcases limit with _ | limit <;> rcases offset with _ | offset <;>
    rcases dialect with _ | ⟨_ | _ | _⟩ <;> rfl

theorem Selection.dropWhile_lexemes (dialect : Dialect) (selection : Selection) :
    (selection.lexemes dialect).dropWhile (fun lexeme => !lexeme.opensWindow) =
      windowLexemes dialect selection.limit selection.offset := by
  -- Names spelled like keywords stand between quotes, and no name is read as a keyword.
  have head : ∀ lexeme ∈ selection.model.headLexemes, (!lexeme.opensWindow) = true := by
    intro lexeme listed
    rw [Lexeme.opensWindow_eq_false (headLexemes_noKeyword selection.model .cut lexeme listed)]
    rfl
  have restriction : ∀ lexeme ∈ Predicate.whereLexemes dialect selection.model selection.predicates,
      (!lexeme.opensWindow) = true := by
    intro lexeme listed
    rw [Predicate.whereLexemes_opensNoWindow dialect selection.model selection.predicates lexeme listed]
    rfl
  have order : ∀ lexeme ∈ orderLexemes selection.model selection.order,
      (!lexeme.opensWindow) = true := by
    intro lexeme listed
    rw [Lexeme.opensWindow_eq_false
      (orderLexemes_noKeyword selection.model selection.order (by decide) lexeme listed)]
    rfl
  rw [lexemes, List.append_assoc, List.dropWhile_append_of_pos head,
    List.dropWhile_append_of_pos restriction, List.dropWhile_append_of_pos order,
    dropWhile_windowLexemes]

/-- The places of a built selection have names that do not repeat. From the left to the right they hold
the bound operands of the clauses, clause by clause, and then the bounds of the window in the order of
the dialect, where the limit stands at the limit and the offset at the offset. -/
theorem places_hold_the_operands_and_the_window {model : Model} {clauses : List Clause}
    {terms : List SortTerm} {limit offset : Int} {selection : Selection}
    (built : buildSelection .standard model clauses terms limit offset = .ok selection)
    (dialect : Dialect) :
    ((selection.render dialect).parameters.map Prod.fst).Nodup ∧
    (selection.render dialect).window? dialect = some (dialect.window limit offset) ∧
    ∃ lexemes, (selection.render dialect).lexemes? dialect = some lexemes ∧
      lexemes.filterMap Lexeme.bound? = (selection.render dialect).parameters.map Prod.snd ∧
      (selection.render dialect).parameters.map Prod.snd =
        clauses.flatMap Clause.boundOperands ++ (dialect.window limit offset).values dialect := by
  obtain ⟨predicates, compiled, resolved⟩ := bind_eq_ok_iff.mp built
  obtain ⟨order, _, made⟩ := bind_eq_ok_iff.mp resolved
  obtain rfl := Except.ok.inj made
  generalize selected : Selection.mk model predicates order (positiveBound limit)
    (positiveBound offset) = selection
  have reads := selection.reads_tokens dialect
  have read : (selection.render dialect).lexemes? dialect = some (selection.lexemes dialect) :=
    reads.lexemes?_ofTokens
  have values : (selection.render dialect).parameters.map Prod.snd =
      (Token.places (selection.tokens dialect)).map Prod.snd := SqlText.values_behind [] _
  refine ⟨SqlText.nodup_names_ofTokens _, ?_, _, read, reads.bound.trans values.symm, ?_⟩
  · rw [SqlText.window?, read, Option.bind_eq_bind, Option.bind_some, selection.dropWhile_lexemes,
      ← selected, ofAtoms?_windowLexemes]
  · rw [values, Selection.places_append, List.map_append, Predicate.values_whereTokens, ← selected,
      Registry.operands_of_compileClauses compiled, values_windowTokens]

def turns : List Clause := [
  ⟨"label", .known .like, [.text "%a%"]⟩, ⟨"order", .known .equality, [.integer 1, .integer 9]⟩,
  ⟨"Mixed", .known .like, [.text "%b%"]⟩, ⟨"order", .known .between, [.integer 2, .integer 5]⟩,
  ⟨"order", .known .or, [.integer 7, .null, .integer 8, .boolean true]⟩]

theorem turns_keep_their_operands : ∃ selection,
    buildSelection .standard Samples.odd turns [⟨"order", none⟩] 3 4 = .ok selection ∧
    ((selection.render (.adapter .mysql)).parameters.map Prod.fst).Nodup ∧
    (selection.render (.adapter .mysql)).window? (.adapter .mysql) =
      some ⟨.value (.integer 3), .value (.integer 4)⟩ ∧
    (selection.render (.adapter .mysql)).parameters.map Prod.snd = [
      .text "%a%", .integer 1, .text "%b%", .integer 2, .integer 5, .integer 7, .integer 8,
      .integer 4, .integer 3] := by
  have built : buildSelection .standard Samples.odd turns [⟨"order", none⟩] 3 4 = .ok _ := rfl
  obtain ⟨distinct, window, _, _, _, values⟩ :=
    places_hold_the_operands_and_the_window built (.adapter .mysql)
  exact ⟨_, built, distinct, window, values⟩

end RecordStore
