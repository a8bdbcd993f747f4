import RecordStore.Filter.Spec
import RecordStore.Model.Basic

/-!
Sample models: a person with a unique address, a note of limited length, and a model whose
attribute names and column names cross.
-/

namespace RecordStore.Samples

def person : Model where
  name := "Person"
  table := "people"
  own := [
    ⟨"name", "name", .text none, false, false, .null⟩,
    ⟨"age", "age", .integer, false, false, .integer 0⟩,
    ⟨"status", "status", .text none, false, false, .text "active"⟩,
    ⟨"email", "email_address", .text none, true, true, .null⟩]

def note : Model where
  name := "Note"
  table := "notes"
  own := [⟨"body", "body", .text (some 200), false, false, .null⟩]

def odd : Model where
  name := "Odd"
  table := "Odd Things"
  own := [
    ⟨"name", "label", .text (some 40), true, false, .null⟩,
    ⟨"label", "name", .text (some 40), true, false, .null⟩,
    ⟨"order_", "order", .integer, true, false, .null⟩,
    ⟨"mixed", "Mixed", .text (some 40), true, false, .null⟩,
    ⟨"flag", "flag", .boolean, true, false, .null⟩,
    ⟨"score", "score", .float, true, false, .null⟩]

def models : List Model := [person, note, odd]

def model? (name : String) : Option Model :=
  models.find? fun model => model.name == name

def personFilter : Definition where
  name := "PersonFilter"
  bases := ["FilterSpec"]
  body := [
    ("name", .field none (some (.condition .like))),
    ("age", .field (some "age") (some (.condition .between))),
    ("status", .field none (some (.condition .or))),
    ("email", .field (some "email_address") none)]

end RecordStore.Samples
