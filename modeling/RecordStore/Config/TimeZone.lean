import RecordStore.Config.Reading

/-!
Names of time zones, and the statement that puts a connection into one. The statement holds the
name between quotes as it is, so only harmless characters are let through.
-/

namespace RecordStore.TimeZone

def isNameLetter (letter : Char) : Bool :=
  ('A' ≤ letter && letter ≤ 'Z') || ('a' ≤ letter && letter ≤ 'z') ||
    ('0' ≤ letter && letter ≤ '9') || letter = '_' || letter = '+' || letter = '-' ||
    letter = ':' || letter = '/'

def dropFinalNewline (text : List Char) : List Char :=
  if text.getLast? = some '\n' then text.dropLast else text

/-- Whether a text is a name of a time zone, which a line end may follow. -/
def isName (text : List Char) : Bool :=
  let name := dropFinalNewline text
  !name.isEmpty && name.all isNameLetter

def isAccepted (zone : String) : Bool := zone.isEmpty || isName zone.toList

def read (value : Value) : Except Fault String := do
  let zone ← Reading.text value
  if isAccepted zone then .ok zone else .error (.invalidTimeZone zone)

def statement? (adapter : Adapter) (zone : String) : Option String :=
  if zone.isEmpty then none
  else match adapter with
    | .postgres => some ("SET TIME ZONE '" ++ zone ++ "'")
    | .mysql => some ("SET time_zone = '" ++ zone ++ "'")
    | .sqlite => none

end RecordStore.TimeZone
