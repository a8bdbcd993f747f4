import RecordStore.Filter.Pattern

/-!
Texts as literal parts of patterns. The passes that escape a text put one mark before each letter with
a meaning, as a single pass for all these letters does. To read a mark and the letter behind it as one
gives the text back, so no two texts are escaped alike.
-/

namespace RecordStore
namespace Pattern

def isSpecial (letter : Char) : Bool := letter = escapeMark || letter = '%' || letter = '_'

def markWhere (marked : Char → Bool) (text : List Char) : List Char :=
  text.flatMap fun letter => if marked letter then [escapeMark, letter] else [letter]

theorem markWhere_cons (marked : Char → Bool) (letter : Char) (text : List Char) :
    markWhere marked (letter :: text) =
      (if marked letter then [escapeMark, letter] else [letter]) ++ markWhere marked text :=
  List.flatMap_cons

theorem markWhere_append (marked : Char → Bool) (text rest : List Char) :
    markWhere marked (text ++ rest) = markWhere marked text ++ markWhere marked rest :=
  List.flatMap_append

theorem escapeAll_append (mark : Char) (text rest : List Char) :
    escapeAll mark (text ++ rest) = escapeAll mark text ++ escapeAll mark rest :=
  List.flatMap_append

/-- A further pass takes no mark for a letter of the text and finds its own letters unmarked. -/
theorem escapeAll_markWhere {mark : Char} {marked : Char → Bool} (notEscape : mark ≠ escapeMark)
    (unmarked : marked mark = false) (text : List Char) :
    escapeAll mark (markWhere marked text) =
      markWhere (fun letter => marked letter || letter = mark) text := by
  induction text with
  | nil => rfl
  | cons letter text ih =>
      have image : escapeAll mark (if marked letter then [escapeMark, letter] else [letter]) =
          if marked letter || letter = mark then [escapeMark, letter] else [letter] := by
        -- A letter is the pass's own, one that an earlier pass has marked, or neither.
        by_cases isMark : letter = mark
        · subst isMark
          simp [escapeAll, unmarked]
        · by_cases before : marked letter = true
          · simp [escapeAll, before, isMark, notEscape.symm]
          · simp [escapeAll, before, isMark]
      rw [markWhere_cons, escapeAll_append, image, ih, markWhere_cons]

-- The escape mark's own pass has to be the first: a later one takes the marks for letters of the text.
example : escapeAll escapeMark (escapeAll '%' ['%']) = ['\\', '\\', '%'] := by decide

theorem escapeLetters_eq_markWhere (text : List Char) :
    escapeLetters text = markWhere isSpecial text :=
  calc escapeLetters text
    _ = escapeAll '_' (escapeAll '%' (markWhere (fun letter => letter = escapeMark) text)) := by
        simp only [escapeLetters, escapeAll, markWhere, decide_eq_true_eq]
    _ = escapeAll '_' (markWhere (fun letter => letter = escapeMark || letter = '%') text) := by
        rw [escapeAll_markWhere (by decide) (by decide)]
    _ = markWhere isSpecial text := escapeAll_markWhere (by decide) (by decide) text

theorem escapeLetters_cons (letter : Char) (text : List Char) :
    escapeLetters (letter :: text) =
      (if isSpecial letter then [escapeMark, letter] else [letter]) ++ escapeLetters text := by
  rw [escapeLetters_eq_markWhere, escapeLetters_eq_markWhere, markWhere_cons]

theorem escapeText_append (text rest : String) :
    escapeText (text ++ rest) = escapeText text ++ escapeText rest := by
  simp only [escapeText, escapeLetters_eq_markWhere, String.toList_append, markWhere_append,
    String.ofList_append]

/-- An escaped text without its marks. It is read from the left, an escape mark and the letter behind
it as one, which stands for that letter; a mark that nothing follows stays. -/
def unescapeLetters : List Char → List Char
  | [] => []
  | letter :: text =>
    if letter = escapeMark then
      match text with
      | literal :: text => literal :: unescapeLetters text
      | [] => [letter]
    else letter :: unescapeLetters text

def unescapeText (text : String) : String := String.ofList (unescapeLetters text.toList)

theorem unescapeLetters_escaped (letter : Char) (text : List Char) :
    unescapeLetters (escapeMark :: letter :: text) = letter :: unescapeLetters text := by
  rw [unescapeLetters, if_pos rfl]

theorem unescapeLetters_plain {letter : Char} (plain : letter ≠ escapeMark) (text : List Char) :
    unescapeLetters (letter :: text) = letter :: unescapeLetters text := by
  cases text <;> simp only [unescapeLetters, if_neg plain]

theorem unescapeLetters_markWhere {marked : Char → Bool} (marksItself : marked escapeMark = true)
    (text : List Char) : unescapeLetters (markWhere marked text) = text := by
  induction text with
  | nil => rfl
  | cons letter text ih =>
      rw [markWhere_cons]
      by_cases isMarked : marked letter = true
      · rw [if_pos isMarked, List.cons_append, List.singleton_append, unescapeLetters_escaped, ih]
      · have plain : letter ≠ escapeMark := by
          rintro rfl
          exact isMarked marksItself
        rw [if_neg isMarked, List.singleton_append, unescapeLetters_plain plain, ih]

theorem unescapeText_escapeText (text : String) : unescapeText (escapeText text) = text := by
  rw [unescapeText, escapeText, String.toList_ofList, escapeLetters_eq_markWhere,
    unescapeLetters_markWhere rfl, String.ofList_toList]

theorem escapeText_inj (text other : String) : escapeText text = escapeText other ↔ text = other := by
  constructor
  · intro same
    calc text = unescapeText (escapeText text) := (unescapeText_escapeText text).symm
      _ = unescapeText (escapeText other) := by rw [same]
      _ = other := unescapeText_escapeText other
  · exact congrArg escapeText

/-- The passes escape a text as one pass does that looks at each letter by itself, and the text can be
read back from what they make of it. -/
theorem escape_passes_are_one_invertible_pass (text other : String) :
    escapeText text = String.ofList (markWhere isSpecial text.toList) ∧
    escapeText (text ++ other) = escapeText text ++ escapeText other ∧
    unescapeText (escapeText text) = text ∧
    (escapeText text = escapeText other ↔ text = other) := by
  refine ⟨?_, escapeText_append text other, unescapeText_escapeText text, escapeText_inj text other⟩
  rw [escapeText, escapeLetters_eq_markWhere]

end Pattern
end RecordStore
