/-!
Association lists: entries by key, in the order in which their keys were first set.
-/

namespace RecordStore

/-- Sets a key of an association list; a new key goes to the end. -/
def assign {α : Type} (key : String) (value : α) : List (String × α) → List (String × α)
  | [] => [(key, value)]
  | (other, old) :: rest =>
    if other = key then (key, value) :: rest else (other, old) :: assign key value rest

def unassign {α : Type} (key : String) (entries : List (String × α)) : List (String × α) :=
  entries.filter fun entry => entry.1 != key

def assignAll {α : Type} (entries later : List (String × α)) : List (String × α) :=
  later.foldl (fun entries entry => assign entry.1 entry.2 entries) entries

variable {α : Type}

theorem lookup_assign_self (key : String) (value : α) (entries : List (String × α)) :
    (assign key value entries).lookup key = some value := by
  induction entries with
  | nil => simp [assign]
  | cons entry rest ih =>
    obtain ⟨other, old⟩ := entry
    by_cases same : other = key
    · simp [assign, same]
    · have skip : (key == other) = false := by simpa using Ne.symm same
      simp [assign, same, List.lookup_cons, skip, ih]

theorem lookup_assign_of_ne {key other : String} (distinct : other ≠ key) (value : α)
    (entries : List (String × α)) :
    (assign key value entries).lookup other = entries.lookup other := by
  have skip : (other == key) = false := by simpa using distinct
  induction entries with
  | nil => simp [assign, List.lookup_cons, skip]
  | cons entry rest ih =>
    obtain ⟨held, old⟩ := entry
    by_cases same : held = key
    · simp [assign, same, List.lookup_cons, skip]
    · simp only [assign, same, if_false, List.lookup_cons, ih]

theorem lookup_unassign_of_ne {key other : String} (distinct : other ≠ key)
    (entries : List (String × α)) :
    (unassign key entries).lookup other = entries.lookup other := by
  induction entries with
  | nil => rfl
  | cons entry rest ih =>
    obtain ⟨held, old⟩ := entry
    by_cases same : held = key
    · have skip : (other == held) = false := by simpa [same] using distinct
      have gone : unassign key ((held, old) :: rest) = unassign key rest := by
        simp [unassign, same]
      simp only [gone, List.lookup_cons, skip, ih]
    · have keep : (held != key) = true := by simpa using same
      have kept : unassign key ((held, old) :: rest) = (held, old) :: unassign key rest := by
        simp [unassign, keep]
      simp only [kept, List.lookup_cons, ih]

end RecordStore
