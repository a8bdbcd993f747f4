import RecordStore.Text.Case

/-!
The Unicode property of white space, and texts without white space at either end.
-/

namespace RecordStore.Text

def blankRanges : List (Nat × Nat) := [
  (9, 13), (32, 32), (133, 133), (160, 160), (5760, 5760), (8192, 8202), (8232, 8233),
  (8239, 8239), (8287, 8287), (12288, 12288)]

def isBlank (letter : Char) : Bool := inRanges blankRanges letter.toNat

def trimmed (isDropped : Char → Bool) (text : List Char) : List Char :=
  ((text.dropWhile isDropped).reverse.dropWhile isDropped).reverse

def trimBlank (text : List Char) : List Char := trimmed isBlank text

end RecordStore.Text
