import RecordStore.Text.CaseTable

/-!
Full Unicode case mappings of texts. A capital sigma at the end of a word becomes the final small
sigma; every other character is mapped by itself.
-/

namespace RecordStore.Text

def inRanges (ranges : List (Nat × Nat)) (code : Nat) : Bool :=
  ranges.any fun range => range.1 ≤ code && code ≤ range.2

def mapByRanges (ranges : List CaseRange) (code : Nat) : Nat :=
  match ranges.find? fun range =>
    range.first ≤ code && code ≤ range.last && (code - range.first) % range.stride == 0 with
  | some range => ((code : Int) + range.offset).toNat
  | none => code

def isCased (letter : Char) : Bool := inRanges casedRanges letter.toNat

def isCaseIgnorable (letter : Char) : Bool := inRanges caseIgnorableRanges letter.toNat

def capitalSigma : Char := 'Σ'

/-- The small letters of one character other than the capital sigma. -/
def lowerChar (letter : Char) : List Char :=
  if letter = 'İ' then ['i', Char.ofNat 0x307]
  else [Char.ofNat (mapByRanges lowerRanges letter.toNat)]

def upperChar (letter : Char) : List Char :=
  match upperExpansions.find? fun entry => entry.1 == letter.toNat with
  | some (_, codes) => codes.map Char.ofNat
  | none => [Char.ofNat (mapByRanges upperRanges letter.toNat)]

def meetsCased (text : List Char) : Bool :=
  match text.dropWhile isCaseIgnorable with
  | letter :: _ => isCased letter
  | [] => false

/-- The small letters of a text, given the characters before it, nearest first. -/
def lowerFrom (before : List Char) : List Char → List Char
  | [] => []
  | letter :: rest =>
    let image :=
      if letter = capitalSigma then
        [if meetsCased before && !meetsCased rest then 'ς' else 'σ']
      else lowerChar letter
    image ++ lowerFrom (letter :: before) rest

def lower (text : String) : String := String.ofList (lowerFrom [] text.toList)

def upper (text : String) : String := String.ofList (text.toList.flatMap upperChar)

def lowerAscii (letter : Char) : Char :=
  if 'A' ≤ letter ∧ letter ≤ 'Z' then Char.ofNat (letter.toNat + 32) else letter

end RecordStore.Text
