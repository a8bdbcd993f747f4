import RecordStore.Text.Case
import RecordStore.Text.PrintableTable

/-!
Quoted texts and bytes. A quoted text stands between single quotes, or between double quotes when
it holds a single quote and no double one; characters without a printed form are escaped by their
code.
-/

namespace RecordStore.Text

def isPrintable (letter : Char) : Bool := !inRanges unprintableRanges letter.toNat

def hexText (width number : Nat) : String :=
  let digits := Nat.toDigits 16 number
  String.ofList (List.replicate (width - digits.length) '0' ++ digits)

def quoteFor (text : List Char) : Char :=
  if text.contains '\'' && !text.contains '"' then '"' else '\''

def escapeChar (quote letter : Char) : String :=
  if letter = quote ∨ letter = '\\' then String.ofList ['\\', letter]
  else if letter = '\n' then "\\n"
  else if letter = '\r' then "\\r"
  else if letter = '\t' then "\\t"
  else if isPrintable letter then String.ofList [letter]
  else if letter.toNat < 0x100 then "\\x" ++ hexText 2 letter.toNat
  else if letter.toNat < 0x10000 then "\\u" ++ hexText 4 letter.toNat
  else "\\U" ++ hexText 8 letter.toNat

def quoted (text : String) : String :=
  let letters := text.toList
  let quote := quoteFor letters
  String.ofList [quote] ++ String.join (letters.map (escapeChar quote)) ++ String.ofList [quote]

def escapeByte (quote : Char) (byte : UInt8) : String :=
  let letter := Char.ofNat byte.toNat
  if letter = quote ∨ letter = '\\' then String.ofList ['\\', letter]
  else if letter = '\n' then "\\n"
  else if letter = '\r' then "\\r"
  else if letter = '\t' then "\\t"
  else if 0x20 ≤ byte.toNat ∧ byte.toNat < 0x7f then String.ofList [letter]
  else "\\x" ++ hexText 2 byte.toNat

def quoteForBytes (bytes : List UInt8) : Char :=
  quoteFor (bytes.map fun byte => Char.ofNat byte.toNat)

def quotedBytes (bytes : List UInt8) : String :=
  let quote := quoteForBytes bytes
  "b" ++ String.ofList [quote] ++ String.join (bytes.map (escapeByte quote)) ++
    String.ofList [quote]

/-- Bytes of a buffer between quotes; a single quote is escaped between quotes of both kinds. -/
def quotedBuffer (bytes : List UInt8) : String :=
  let quote := quoteForBytes bytes
  "b" ++ String.ofList [quote] ++ String.join (bytes.map (escapeByte '\'')) ++
    String.ofList [quote]

def ofUtf8? (bytes : List UInt8) : Option String :=
  String.fromUTF8? (ByteArray.mk bytes.toArray)

end RecordStore.Text
