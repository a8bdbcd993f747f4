import RecordStore.Filter.Pattern
import RecordStore.Text.Case

/-!
Matching texts with LIKE patterns. Letters from `A` to `Z` match without regard to case, and a text
and a pattern both end before their first character zero. Patterns are taken to stay within the 50000
bytes beyond which SQLite refuses one as too complex.
-/

namespace RecordStore.Like

def untilZero (text : List Char) : List Char := text.takeWhile fun letter => letter.toNat ≠ 0

def sameLetter (letter other : Char) : Bool := Text.lowerAscii letter == Text.lowerAscii other

def anySuffix (holds : List Char → Bool) : List Char → Bool
  | [] => holds []
  | letter :: rest => holds (letter :: rest) || anySuffix holds rest

/-- Whether a pattern matches a whole text. `%` matches any run of characters and `_` any one; the
escape mark, if there is one, makes the next character stand for itself and matches nothing at the
end of the pattern. -/
def matchesFrom (escape : Option Char) : List Char → List Char → Bool
  | [], text => text.isEmpty
  | letter :: pattern, text =>
    if escape = some letter then
      match pattern, text with
      | literal :: pattern, other :: text =>
        sameLetter literal other && matchesFrom escape pattern text
      | _, _ => false
    else if letter = '%' then anySuffix (matchesFrom escape pattern) text
    else
      match text with
      | other :: text => (letter = '_' || sameLetter letter other) && matchesFrom escape pattern text
      | [] => false

def holds (escape : Option Char) (pattern text : String) : Bool :=
  matchesFrom escape (untilZero pattern.toList) (untilZero text.toList)

end RecordStore.Like
