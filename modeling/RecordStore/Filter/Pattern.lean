/-!
Patterns of the LIKE operator. `%` matches any run of characters and `_` any one; a backslash
before a character makes it stand for itself.
-/

namespace RecordStore.Pattern

def escapeMark : Char := '\\'

def escapeAll (mark : Char) (text : List Char) : List Char :=
  text.flatMap fun letter => if letter = mark then [escapeMark, letter] else [letter]

/-- A text as the part of a pattern that matches it literally. The escape mark comes first, so
that the marks of the later passes stay single. -/
def escapeLetters (text : List Char) : List Char :=
  escapeAll '_' (escapeAll '%' (escapeAll escapeMark text))

def escapeText (text : String) : String := String.ofList (escapeLetters text.toList)

def containing (text : String) : String := "%" ++ escapeText text ++ "%"

end RecordStore.Pattern
