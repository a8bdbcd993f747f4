import Mathlib.Data.List.Forall2
import RecordStore.Filter.Compile
import RecordStore.Proofs.EscapedTexts
import RecordStore.Proofs.Outcome

/-!
The patterns of LIKE fields. Patterns have a meaning of their own, given by rules; a pattern that is
made from a text matches exactly the texts that hold it, so nothing in the text acts as a mark.
-/

namespace RecordStore
namespace Pattern

/-- The rules of LIKE with an escape mark. `%` takes any run of letters, `_` any one, and a letter
behind the escape mark is matched like a letter without a meaning. -/
inductive Matches (alike : Char → Char → Prop) : List Char → List Char → Prop
  | nil : Matches alike [] []
  | runEnds {pattern text} : Matches alike pattern text → Matches alike ('%' :: pattern) text
  | runTakes {letter pattern text} : Matches alike ('%' :: pattern) text →
      Matches alike ('%' :: pattern) (letter :: text)
  | one {letter pattern text} : Matches alike pattern text →
      Matches alike ('_' :: pattern) (letter :: text)
  | escaped {letter other pattern text} : alike letter other → Matches alike pattern text →
      Matches alike (escapeMark :: letter :: pattern) (other :: text)
  | plain {letter other pattern text} : letter ≠ escapeMark → letter ≠ '%' → letter ≠ '_' →
      alike letter other → Matches alike pattern text →
      Matches alike (letter :: pattern) (other :: text)

variable {alike : Char → Char → Prop}

theorem matches_run_iff (pattern text : List Char) :
    Matches alike ('%' :: pattern) text ↔
      ∃ skipped rest, text = skipped ++ rest ∧ Matches alike pattern rest := by
  constructor
  · intro matched
    generalize whole : '%' :: pattern = full at matched
    induction matched with
    | runEnds rest =>
        cases whole
        exact ⟨[], _, rfl, rest⟩
    | runTakes _ ih =>
        obtain ⟨skipped, rest, split, inner⟩ := ih whole
        exact ⟨_ :: skipped, rest, by rw [split, List.cons_append], inner⟩
    | plain _ notRun _ _ _ _ =>
        cases whole
        exact absurd rfl notRun
    | nil | one | escaped => simp [escapeMark] at whole
  · rintro ⟨skipped, rest, split, inner⟩
    subst split
    induction skipped with
    | nil => exact .runEnds inner
    | cons letter skipped ih => exact .runTakes ih

theorem matches_run_alone (text : List Char) : Matches alike ['%'] text :=
  (matches_run_iff [] text).mpr ⟨text, [], by simp, .nil⟩

theorem matches_literal_iff (letter : Char) (pattern text : List Char) :
    Matches alike ((if isSpecial letter then [escapeMark, letter] else [letter]) ++ pattern) text ↔
      ∃ other rest, text = other :: rest ∧ alike letter other ∧ Matches alike pattern rest := by
  constructor
  · intro matched
    by_cases special : isSpecial letter = true
    · simp only [special, if_true, List.cons_append, List.nil_append] at matched
      cases matched with
      | escaped same inner => exact ⟨_, _, rfl, same, inner⟩
      | plain notMark => exact absurd rfl notMark
    · simp only [special, Bool.false_eq_true, if_false, List.cons_append, List.nil_append] at matched
      simp only [isSpecial, Bool.or_eq_true, decide_eq_true_eq, not_or] at special
      cases matched with
      | plain _ _ _ same inner => exact ⟨_, _, rfl, same, inner⟩
      | runEnds | runTakes => exact absurd rfl special.1.2
      | one => exact absurd rfl special.2
      | escaped => exact absurd rfl special.1.1
  · rintro ⟨other, rest, rfl, same, inner⟩
    by_cases special : isSpecial letter = true
    · simpa only [special, if_true, List.cons_append, List.nil_append] using .escaped same inner
    · simp only [special, Bool.false_eq_true, if_false, List.cons_append, List.nil_append]
      simp only [isSpecial, Bool.or_eq_true, decide_eq_true_eq, not_or] at special
      exact .plain special.1.1 special.1.2 special.2 same inner

theorem matches_escapeLetters_iff (part pattern text : List Char) :
    Matches alike (escapeLetters part ++ pattern) text ↔
      ∃ image rest, text = image ++ rest ∧ List.Forall₂ alike part image ∧
        Matches alike pattern rest := by
  induction part generalizing text with
  | nil =>
      constructor
      · intro matched
        exact ⟨[], text, rfl, .nil, matched⟩
      · rintro ⟨image, rest, rfl, nothing, inner⟩
        cases nothing
        exact inner
  | cons letter part ih =>
      rw [escapeLetters_cons, List.append_assoc, matches_literal_iff]
      constructor
      · rintro ⟨other, tail, rfl, same, matched⟩
        obtain ⟨image, rest, rfl, images, inner⟩ := (ih tail).mp matched
        exact ⟨other :: image, rest, rfl, .cons same images, inner⟩
      · rintro ⟨image, rest, rfl, images, inner⟩
        cases images with
        | cons same images =>
            exact ⟨_, _, rfl, same, (ih _).mpr ⟨_, rest, rfl, images, inner⟩⟩

theorem toList_containing (part : String) :
    (containing part).toList = '%' :: (escapeLetters part.toList ++ ['%']) := by
  simp [containing, escapeText]

theorem matches_containing_iff (part : String) (text : List Char) :
    Matches alike (containing part).toList text ↔
      ∃ before image after, text = before ++ image ++ after ∧
        List.Forall₂ alike part.toList image := by
  rw [toList_containing, matches_run_iff]
  constructor
  · rintro ⟨before, tail, rfl, matched⟩
    obtain ⟨image, after, rfl, images, _⟩ := (matches_escapeLetters_iff _ _ _).mp matched
    exact ⟨before, image, after, by rw [List.append_assoc], images⟩
  · rintro ⟨before, image, after, rfl, images⟩
    refine ⟨before, image ++ after, by rw [List.append_assoc], ?_⟩
    exact (matches_escapeLetters_iff _ _ _).mpr
      ⟨image, after, rfl, images, matches_run_alone after⟩

theorem matches_containing_iff_infix (part text : String) :
    Matches (· = ·) (containing part).toList text.toList ↔ part.toList <:+: text.toList := by
  rw [matches_containing_iff]
  constructor
  · rintro ⟨before, image, after, split, images⟩
    rw [List.forall₂_eq_eq_eq] at images
    subst images
    exact ⟨before, after, split.symm⟩
  · rintro ⟨before, after, split⟩
    exact ⟨before, part.toList, after, split.symm, List.forall₂_refl _⟩

end Pattern

theorem compileReadings_append (before after : List (Field × Except Failure Value)) :
    compileReadings (before ++ after) = (do
      let first ← compileReadings before
      let rest ← compileReadings after
      pure (first ++ rest)) := by
  induction before with
  | nil =>
      simp only [List.nil_append, compileReadings]
      cases compileReadings after <;> rfl
  | cons reading before ih =>
      obtain ⟨field, outcome⟩ := reading
      cases outcome with
      | error failure => rfl
      | ok value =>
          simp only [List.cons_append, compileReadings, ih, ok_bind]
          by_cases absent : value.isAbsent = true
          · simp only [absent, if_true]
          · simp only [absent, Bool.false_eq_true, if_false, bind_assoc, pure_bind,
              List.append_assoc]

theorem not_isAbsent_of_asText? {value : Value} {word : String}
    (isWord : value.asText? = some word) (given : word ≠ "") : value.isAbsent = false := by
  cases absent : value.isAbsent with
  | false => rfl
  | true =>
      rcases (Value.isAbsent_iff value).mp absent with isNull | isEmpty
      · simp [isNull, Value.asText?] at isWord
      · rw [isWord] at isEmpty
        exact absurd (Option.some.inj isEmpty) given

theorem compileReadings_like {field : Field} {value : Value} {word : String}
    (isLike : field.condition = .like) (isWord : value.asText? = some word) (given : word ≠ "")
    (after : List (Field × Except Failure Value)) :
    compileReadings ((field, .ok value) :: after) = (do
      let rest ← compileReadings after
      pure (field.clause [.text (Pattern.containing (Text.lower word))] :: rest)) := by
  have present := not_isAbsent_of_asText? isWord given
  have clause : field.compile value =
      .ok (some (field.clause [.text (Pattern.containing (Text.lower word))])) := by
    simp only [Field.compile, isLike, isWord]
  simp only [compileReadings, ok_bind, present, Bool.false_eq_true, if_false, clause,
    Option.toList_some, List.cons_append, List.nil_append]

/-- A text given to a LIKE field becomes one pattern in its place among the clauses, and a text
matches this pattern exactly if the given one, in small letters, occurs in it. -/
theorem like_value_matches_exactly_its_occurrences (field : Field) (value : Value) (word : String)
    (isLike : field.condition = .like) (isWord : value.asText? = some word) (given : word ≠ "") :
    ∃ pattern : String,
      (∀ catalogue filter before after,
        Catalogue.readings catalogue filter = before ++ (field, .ok value) :: after →
        compileFilter catalogue (some filter) = (do
          catalogue.checkCallable filter Catalogue.itemsName
          let first ← compileReadings before
          let rest ← compileReadings after
          pure (first ++ ⟨field.target, .known .like, [.text pattern]⟩ :: rest))) ∧
      ∀ text : String, Pattern.Matches (· = ·) pattern.toList text.toList ↔
        (Text.lower word).toList <:+: text.toList := by
  refine ⟨Pattern.containing (Text.lower word), ?_, ?_⟩
  · intro catalogue filter before after reads
    have inPlace : field.clause [.text (Pattern.containing (Text.lower word))] =
        ⟨field.target, .known .like, [.text (Pattern.containing (Text.lower word))]⟩ := by
      rw [Field.clause, isLike]
    simp only [compileFilter, reads, compileReadings_append,
      compileReadings_like isLike isWord given, inPlace, bind_assoc, pure_bind]
  · exact Pattern.matches_containing_iff_infix (Text.lower word)

theorem marks_in_a_name_match_exactly_themselves :
    ∃ pattern : String,
      compileFilter
        ⟨[⟨"name", some "name", .like⟩], [⟨"NameFilter", [("name", .field 0)], [0], [0]⟩]⟩
        (some ⟨0, [("name", .text "50%_\\")]⟩) =
          .ok [⟨"name", .known .like, [.text pattern]⟩] ∧
      ∀ text : String, Pattern.Matches (· = ·) pattern.toList text.toList ↔
        (Text.lower "50%_\\").toList <:+: text.toList := by
  obtain ⟨pattern, compiles, exactly⟩ := like_value_matches_exactly_its_occurrences
    ⟨"name", some "name", .like⟩ (.text "50%_\\") "50%_\\" rfl rfl (by decide)
  exact ⟨pattern, compiles _ _ [] [] rfl, exactly⟩

end RecordStore
