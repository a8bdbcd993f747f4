import RecordStore.Proofs.LiteralPattern
import RecordStore.Store.Query

/-!
What the store finds by the pattern of a text. It takes a letter from `A` to `Z` for its small one
and every other letter for itself, and it reads texts up to their first character zero.
-/

namespace RecordStore

namespace Text

theorem toNat_ofNat (code : Nat) :
    (Char.ofNat code).toNat = if code.isValidChar then code else 0 := by
  by_cases valid : code.isValidChar
  · rw [if_pos valid, Char.ofNat, dif_pos valid]
    rfl
  · rw [if_neg valid, Char.ofNat, dif_neg valid]
    rfl

theorem toNat_lowerAscii (letter : Char) : (lowerAscii letter).toNat =
    if 65 ≤ letter.toNat ∧ letter.toNat ≤ 90 then letter.toNat + 32 else letter.toNat := by
  have capital : ('A' ≤ letter ∧ letter ≤ 'Z') ↔ (65 ≤ letter.toNat ∧ letter.toNat ≤ 90) :=
    Iff.rfl
  simp only [lowerAscii, capital]
  by_cases isCapital : 65 ≤ letter.toNat ∧ letter.toNat ≤ 90
  · have valid : (letter.toNat + 32).isValidChar := .inl (by omega)
    simp only [isCapital, and_self, if_true, toNat_ofNat, valid]
  · simp only [isCapital, if_false]

theorem lowerAscii_lowerAscii (letter : Char) :
    lowerAscii (lowerAscii letter) = lowerAscii letter := by
  apply Char.toNat_inj.mp
  simp only [toNat_lowerAscii]
  grind

theorem lowerAscii_eq_self {letter : Char} (noCapital : letter.toNat < 65 ∨ 90 < letter.toNat) :
    lowerAscii letter = letter := by
  apply Char.toNat_inj.mp
  rw [toNat_lowerAscii, if_neg (by omega)]

theorem mapByRanges_lowerRanges (code : Nat) :
    mapByRanges lowerRanges code < 65 ∨ 90 < mapByRanges lowerRanges code := by
  have leads : ∀ range ∈ lowerRanges, 90 < (range.first : Int) + range.offset := by
    decide +kernel
  unfold mapByRanges
  split
  · rename_i range found
    have listed := leads range (List.mem_of_find?_eq_some found)
    have inRange := List.find?_some found
    simp only [Bool.and_eq_true, decide_eq_true_eq] at inRange
    omega
  · rename_i missing
    have capitals := List.find?_eq_none.mp missing ⟨65, 90, 1, 32⟩ (List.mem_cons_self)
    simp only [Nat.mod_one, beq_self_eq_true, Bool.and_true, Bool.and_eq_true,
      decide_eq_true_eq] at capitals
    omega

theorem lowerAscii_of_mem_lowerFrom {before text : List Char} {letter : Char}
    (found : letter ∈ lowerFrom before text) : lowerAscii letter = letter := by
  induction text generalizing before with
  | nil => simp [lowerFrom] at found
  | cons first rest ih =>
      rw [lowerFrom, List.mem_append] at found
      rcases found with image | later
      · split at image
        · rw [List.mem_singleton] at image
          subst image
          split <;> rfl
        · unfold lowerChar at image
          split at image
          · rcases List.mem_pair.mp image with rfl | rfl <;> rfl
          · rw [List.mem_singleton] at image
            subst image
            apply lowerAscii_eq_self
            have noCapital := mapByRanges_lowerRanges first.toNat
            rw [toNat_ofNat]
            split <;> omega
      · exact ih later

theorem map_lowerAscii_lower (text : String) :
    (lower text).toList.map lowerAscii = (lower text).toList := by
  have images : ∀ letter ∈ (lower text).toList, lowerAscii letter = letter := by
    intro letter found
    rw [lower, String.toList_ofList] at found
    exact lowerAscii_of_mem_lowerFrom found
  calc (lower text).toList.map lowerAscii = (lower text).toList.map id := List.map_congr_left images
    _ = (lower text).toList := List.map_id _

end Text

namespace Pattern

variable {alike : Char → Char → Prop}

theorem matches_nil_iff (text : List Char) : Matches alike [] text ↔ text = [] := by
  constructor
  · intro matched
    cases matched
    rfl
  · rintro rfl
    exact .nil

theorem matches_escaped_iff (pattern text : List Char) :
    Matches alike (escapeMark :: pattern) text ↔ ∃ literal rest other later,
      pattern = literal :: rest ∧ text = other :: later ∧ alike literal other ∧
        Matches alike rest later := by
  constructor
  · intro matched
    cases matched with
    | escaped same inner => exact ⟨_, _, _, _, rfl, rfl, same, inner⟩
    | plain notMark => exact absurd rfl notMark
  · rintro ⟨literal, rest, other, later, rfl, rfl, same, inner⟩
    exact .escaped same inner

theorem matches_single_iff {letter : Char} (notMark : letter ≠ escapeMark) (notRun : letter ≠ '%')
    (pattern text : List Char) :
    Matches alike (letter :: pattern) text ↔ ∃ other later,
      text = other :: later ∧ (letter = '_' ∨ alike letter other) ∧ Matches alike pattern later := by
  constructor
  · intro matched
    cases matched with
    | one inner => exact ⟨_, _, rfl, .inl rfl, inner⟩
    | plain _ _ _ same inner => exact ⟨_, _, rfl, .inr same, inner⟩
    | runEnds | runTakes => exact absurd rfl notRun
    | escaped => exact absurd rfl notMark
  · rintro ⟨other, later, rfl, fits, inner⟩
    by_cases isOne : letter = '_'
    · exact isOne ▸ .one inner
    · exact .plain notMark notRun isOne (fits.resolve_left isOne) inner

end Pattern

namespace Like

open Pattern Text

theorem sameLetter_iff (letter other : Char) :
    sameLetter letter other = true ↔ lowerAscii letter = lowerAscii other := by
  simp only [sameLetter, beq_iff_eq]

theorem anySuffix_iff (holds : List Char → Bool) (text : List Char) :
    anySuffix holds text = true ↔
      ∃ skipped rest, text = skipped ++ rest ∧ holds rest = true := by
  induction text with
  | nil =>
      constructor
      · intro found
        exact ⟨[], [], rfl, found⟩
      · rintro ⟨skipped, rest, split, found⟩
        obtain ⟨rfl, rfl⟩ := List.append_eq_nil_iff.mp split.symm
        exact found
  | cons letter text ih =>
      rw [anySuffix, Bool.or_eq_true, ih]
      constructor
      · rintro (here | ⟨skipped, rest, rfl, found⟩)
        · exact ⟨[], _, rfl, here⟩
        · exact ⟨letter :: skipped, rest, rfl, found⟩
      · rintro ⟨skipped, rest, split, found⟩
        cases skipped with
        | nil => exact .inl (split ▸ found)
        | cons first skipped =>
            obtain ⟨rfl, rfl⟩ := List.cons.inj split
            exact .inr ⟨skipped, rest, rfl, found⟩

theorem matchesFrom_cons (escape : Option Char) (letter : Char) (pattern text : List Char) :
    matchesFrom escape (letter :: pattern) text =
      if escape = some letter then
        match pattern, text with
        | literal :: pattern, other :: text =>
          sameLetter literal other && matchesFrom escape pattern text
        | _, _ => false
      else if letter = '%' then anySuffix (matchesFrom escape pattern) text
      else
        match text with
        | other :: text =>
          (letter = '_' || sameLetter letter other) && matchesFrom escape pattern text
        | [] => false := by
  cases pattern with
  | nil => rfl
  | cons literal pattern => cases text <;> rfl

theorem matchesFrom_iff (pattern text : List Char) :
    matchesFrom (some escapeMark) pattern text = true ↔
      Matches (fun letter other => lowerAscii letter = lowerAscii other) pattern text := by
  -- An escaped letter takes two letters of the pattern, so the induction is on its length.
  induction size : pattern.length using Nat.strongRecOn generalizing pattern text with
  | ind size ih =>
      subst size
      cases pattern with
      | nil =>
          rw [matches_nil_iff, ← List.isEmpty_iff]
          rfl
      | cons letter pattern =>
          have shorter : pattern.length < (letter :: pattern).length := Nat.lt_succ_self _
          rw [matchesFrom_cons]
          by_cases isMark : letter = escapeMark
          · subst isMark
            rw [if_pos rfl, matches_escaped_iff]
            rcases pattern with _ | ⟨literal, pattern⟩
            · simp
            · have inner := ih pattern.length (Nat.lt_of_succ_lt shorter) pattern
              cases text with
              | nil => simp
              | cons other text => simp [sameLetter_iff, inner text rfl]
          · have noEscape : ¬some escapeMark = some letter :=
              fun same => isMark (Option.some.inj same).symm
            have inner := ih pattern.length shorter pattern
            rw [if_neg noEscape]
            by_cases isRun : letter = '%'
            · subst isRun
              rw [if_pos rfl, anySuffix_iff, matches_run_iff]
              simp only [inner _ rfl]
            · rw [if_neg isRun, matches_single_iff isMark isRun]
              cases text with
              | nil => simp
              | cons other text => simp [sameLetter_iff, inner text rfl]

theorem untilZero_cons (letter : Char) (text : List Char) :
    untilZero (letter :: text) = if letter.toNat = 0 then [] else letter :: untilZero text := by
  simp only [untilZero, List.takeWhile_cons, ne_eq, decide_not, Bool.not_eq_true',
    decide_eq_false_iff_not, ite_not]

/-- The pattern of a text with a character zero ends there, and so lacks its last mark. -/
theorem untilZero_escapeLetters (part rest : List Char) :
    untilZero (escapeLetters part ++ rest) =
      if untilZero part = part then escapeLetters part ++ untilZero rest
      else escapeLetters (untilZero part) := by
  induction part with
  | nil => rfl
  | cons letter part ih =>
      rw [escapeLetters_cons, List.append_assoc, untilZero_cons]
      by_cases isZero : letter.toNat = 0
      · have notSpecial : isSpecial letter = false := by
          simp only [isSpecial, Bool.or_eq_false_iff, decide_eq_false_iff_not]
          refine ⟨⟨?_, ?_⟩, ?_⟩ <;> exact fun same => absurd (same ▸ isZero) (by decide)
        simp only [isZero, notSpecial, if_true, Bool.false_eq_true, if_false, List.cons_append,
          untilZero_cons, reduceCtorEq]
        rfl
      · have marked : untilZero ((if isSpecial letter then [escapeMark, letter] else [letter]) ++
            (escapeLetters part ++ rest)) =
            (if isSpecial letter then [escapeMark, letter] else [letter]) ++
              untilZero (escapeLetters part ++ rest) := by
          have mark : ¬escapeMark.toNat = 0 := by decide
          split <;> simp only [List.cons_append, List.nil_append, untilZero_cons, isZero, mark, if_false]
        rw [marked, ih, if_neg isZero]
        by_cases whole : untilZero part = part
        · have same : letter :: untilZero part = letter :: part := congrArg _ whole
          rw [if_pos whole, if_pos same, List.append_assoc]
        · have cut : ¬letter :: untilZero part = letter :: part :=
            fun same => whole (List.cons.inj same).2
          rw [if_neg whole, if_neg cut, escapeLetters_cons]

/-- Whether a text is found in another: it occurs there, but for the case of plain letters. A text
with a character zero ends before it, and is then found only at the end of the other. -/
def Finds (part text : List Char) : Prop :=
  if untilZero part = part then part.map lowerAscii <:+: (untilZero text).map lowerAscii
  else (untilZero part).map lowerAscii <:+ (untilZero text).map lowerAscii

theorem forall₂_lowerAscii_iff (part image : List Char) :
    List.Forall₂ (fun letter other => lowerAscii letter = lowerAscii other) part image ↔
      part.map lowerAscii = image.map lowerAscii := by
  rw [← List.forall₂_eq_eq_eq, List.forall₂_map_left_iff, List.forall₂_map_right_iff]

theorem holds_containing_iff (part text : String) :
    holds (some escapeMark) (containing part) text = true ↔ Finds part.toList text.toList := by
  rw [holds, matchesFrom_iff, toList_containing, untilZero_cons, if_neg (by decide),
    untilZero_escapeLetters, Finds]
  split
  · have last : untilZero ['%'] = ['%'] := by decide
    rw [last, ← toList_containing, matches_containing_iff]
    simp only [forall₂_lowerAscii_iff, List.infix_map_iff]
    constructor
    · rintro ⟨before, image, after, split, same⟩
      exact ⟨image, ⟨before, after, split.symm⟩, same⟩
    · rintro ⟨image, ⟨before, after, split⟩, same⟩
      exact ⟨before, image, after, split.symm, same⟩
  · rw [matches_run_iff]
    simp only [List.suffix_map_iff]
    constructor
    · rintro ⟨skipped, rest, split, matched⟩
      rw [← List.append_nil (escapeLetters _)] at matched
      obtain ⟨image, none, rfl, same, ends⟩ := (matches_escapeLetters_iff _ _ _).mp matched
      cases ends
      exact ⟨image, ⟨skipped, by rw [split, List.append_nil]⟩, (forall₂_lowerAscii_iff _ _).mp same⟩
    · rintro ⟨image, ⟨skipped, split⟩, same⟩
      refine ⟨skipped, image, split.symm, ?_⟩
      rw [← List.append_nil (escapeLetters _)]
      exact (matches_escapeLetters_iff _ _ _).mpr
        ⟨image, [], (List.append_nil image).symm, (forall₂_lowerAscii_iff _ _).mpr same, .nil⟩

theorem untilZero_map_lowerAscii (text : List Char) :
    untilZero (text.map lowerAscii) = (untilZero text).map lowerAscii := by
  induction text with
  | nil => rfl
  | cons letter text ih =>
      have zero : (lowerAscii letter).toNat = 0 ↔ letter.toNat = 0 := by
        rw [toNat_lowerAscii]
        split <;> omega
      rw [List.map_cons, untilZero_cons, untilZero_cons, ih]
      simp only [zero]
      split <;> rfl

theorem finds_map_lowerAscii (part text : List Char) :
    Finds part (text.map lowerAscii) ↔ Finds part text := by
  have twice : (untilZero (text.map lowerAscii)).map lowerAscii =
      (untilZero text).map lowerAscii := by
    rw [untilZero_map_lowerAscii, List.map_map]
    exact List.map_congr_left fun letter _ => lowerAscii_lowerAscii letter
  simp only [Finds, twice]

end Like

end RecordStore
