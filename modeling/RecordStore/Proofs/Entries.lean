import Mathlib.Data.List.Nodup
import RecordStore.Assoc

/-!
Entries whose names do not repeat. An entry of such a list is what a lookup of its name finds, and setting
names keeps the list so.
-/

namespace RecordStore

variable {α : Type} {name : String} {value : α} {entries later : List (String × α)}

def Distinct (entries : List (String × α)) : Prop := (entries.map Prod.fst).Nodup

instance (entries : List (String × α)) : Decidable (Distinct entries) :=
  inferInstanceAs (Decidable (entries.map Prod.fst).Nodup)

theorem mem_of_lookup (held : entries.lookup name = some value) : (name, value) ∈ entries := by
  obtain ⟨before, after, rfl, _⟩ := List.lookup_eq_some_iff.mp held
  exact List.mem_append_right _ List.mem_cons_self

theorem lookup_of_mem (distinct : Distinct entries) (listed : (name, value) ∈ entries) :
    entries.lookup name = some value := by
  obtain ⟨before, after, rfl⟩ := List.append_of_mem listed
  refine List.lookup_eq_some_iff.mpr ⟨before, after, rfl, fun entry earlier => ?_⟩
  rw [Distinct, List.map_append, List.nodup_append] at distinct
  have apart := distinct.2.2 entry.1 (List.mem_map_of_mem earlier) name (by simp)
  simpa using apart.symm

theorem lookup_of_perm (distinct : Distinct entries) (permuted : entries.Perm later) (name : String) :
    later.lookup name = entries.lookup name := by
  have distinctLater : Distinct later := (permuted.map Prod.fst).nodup_iff.mp distinct
  refine Option.ext fun value => ⟨fun held => ?_, fun held => ?_⟩
  · exact lookup_of_mem distinct (permuted.mem_iff.mpr (mem_of_lookup held))
  · exact lookup_of_mem distinctLater (permuted.mem_iff.mp (mem_of_lookup held))

theorem mem_assign {entry : String × α} (listed : entry ∈ assign name value entries) :
    entry = (name, value) ∨ entry ∈ entries := by
  induction entries with
  | nil => exact .inl (List.mem_singleton.mp listed)
  | cons first rest ih =>
      obtain ⟨other, old⟩ := first
      simp only [assign] at listed
      split at listed
      · rcases List.mem_cons.mp listed with here | there
        · exact .inl here
        · exact .inr (List.mem_cons_of_mem _ there)
      · rcases List.mem_cons.mp listed with here | there
        · exact .inr (here ▸ List.mem_cons_self)
        · exact (ih there).imp_right (List.mem_cons_of_mem _)

theorem distinct_assign (name : String) (value : α) (distinct : Distinct entries) :
    Distinct (assign name value entries) := by
  induction entries with
  | nil => simp [Distinct, assign]
  | cons first rest ih =>
      obtain ⟨other, old⟩ := first
      obtain ⟨apart, distinctRest⟩ := List.nodup_cons.mp distinct
      simp only [assign]
      split
      · rename_i same
        exact List.nodup_cons.mpr ⟨same ▸ apart, distinctRest⟩
      · rename_i different
        refine List.nodup_cons.mpr ⟨fun listed => ?_, ih distinctRest⟩
        obtain ⟨entry, there, same⟩ := List.mem_map.mp listed
        rcases mem_assign there with rfl | kept
        · exact different same.symm
        · exact apart (List.mem_map.mpr ⟨entry, kept, same⟩)

theorem distinct_filter (keeps : String × α → Bool) (distinct : Distinct entries) :
    Distinct (entries.filter keeps) :=
  distinct.sublist (List.filter_sublist.map _)

theorem names_prefix_assign (name : String) (value : α) (entries : List (String × α)) :
    entries.map Prod.fst <+: (assign name value entries).map Prod.fst := by
  induction entries with
  | nil => exact List.nil_prefix
  | cons first rest ih =>
      obtain ⟨other, old⟩ := first
      simp only [assign]
      split
      · rename_i same
        exact same ▸ List.prefix_rfl
      · exact (List.prefix_cons_inj other).mpr ih

theorem assign_of_lookup (held : entries.lookup name = some value) :
    assign name value entries = entries := by
  induction entries with
  | nil => cases held
  | cons first rest ih =>
      obtain ⟨other, old⟩ := first
      by_cases same : other = name
      · simp only [List.lookup_cons, same, beq_self_eq_true, Option.some.injEq] at held
        simp [assign, same, held]
      · have skip : (name == other) = false := by simpa using Ne.symm same
        simp only [List.lookup_cons, skip] at held
        simp only [assign, same, if_false, ih held]

theorem mem_assignAll {entry : String × α} (listed : entry ∈ assignAll entries later) :
    entry ∈ entries ∨ entry ∈ later := by
  induction later generalizing entries with
  | nil => exact .inl listed
  | cons first rest ih =>
      rcases ih listed with there | kept
      · rcases mem_assign there with rfl | kept
        · exact .inr List.mem_cons_self
        · exact .inl kept
      · exact .inr (List.mem_cons_of_mem _ kept)

@[simp] theorem assignAll_cons (entry : String × α) (later entries : List (String × α)) :
    assignAll entries (entry :: later) = assignAll (assign entry.1 entry.2 entries) later := rfl

theorem names_prefix_assignAll (later entries : List (String × α)) :
    entries.map Prod.fst <+: (assignAll entries later).map Prod.fst := by
  induction later generalizing entries with
  | nil => exact List.prefix_rfl
  | cons entry later ih => exact (names_prefix_assign entry.1 entry.2 entries).trans (ih _)

theorem lookup_assignAll (name : String) (later entries : List (String × α)) :
    (assignAll entries later).lookup name =
      ((assignAll [] later).lookup name).or (entries.lookup name) := by
  induction later generalizing entries with
  | nil => rfl
  | cons entry later ih =>
      obtain ⟨other, value⟩ := entry
      rw [assignAll_cons, assignAll_cons, ih, ih (assign other value [])]
      by_cases same : name = other
      · subst same
        rw [lookup_assign_self, lookup_assign_self]
        cases (assignAll [] later).lookup name <;> rfl
      · rw [lookup_assign_of_ne same, lookup_assign_of_ne same, List.lookup_nil, Option.or_none]

theorem lookup_assignAll_nil (name : String) (distinct : Distinct entries) :
    (assignAll [] entries).lookup name = entries.lookup name := by
  induction entries with
  | nil => rfl
  | cons entry entries ih =>
      obtain ⟨other, value⟩ := entry
      obtain ⟨apart, distinctRest⟩ := List.nodup_cons.mp distinct
      rw [assignAll_cons, lookup_assignAll, ih distinctRest]
      by_cases same : name = other
      · subst same
        have absent : entries.lookup name = none := by
          rw [List.lookup_eq_none_iff]
          intro entry listed
          have named : entry.1 ∈ entries.map Prod.fst := List.mem_map_of_mem listed
          simpa using fun same : name = entry.1 => apart (same ▸ named)
        rw [absent, Option.none_or, lookup_assign_self]
        simp
      · have skip : (name == other) = false := by simpa using same
        rw [lookup_assign_of_ne same]
        simp [List.lookup_cons, skip]

theorem assign_of_not_mem (absent : name ∉ entries.map Prod.fst) (value : α) :
    assign name value entries = entries ++ [(name, value)] := by
  induction entries with
  | nil => rfl
  | cons first rest ih =>
      obtain ⟨other, old⟩ := first
      obtain ⟨different, absentRest⟩ := not_or.mp (List.mem_cons.not.mp absent)
      rw [assign, if_neg (Ne.symm different), ih absentRest, List.cons_append]

theorem assignAll_eq_append (distinct : Distinct (entries ++ later)) :
    assignAll entries later = entries ++ later := by
  induction later generalizing entries with
  | nil => exact (List.append_nil _).symm
  | cons first rest ih =>
      have absent : first.1 ∉ entries.map Prod.fst := by
        rw [Distinct, List.map_append, List.nodup_append] at distinct
        exact fun there => distinct.2.2 _ there first.1 List.mem_cons_self rfl
      rw [assignAll_cons, assign_of_not_mem absent, ih (by rwa [List.append_assoc]), List.append_assoc]
      rfl

theorem distinct_assignAll (later : List (String × α)) (distinct : Distinct entries) :
    Distinct (assignAll entries later) := by
  induction later generalizing entries with
  | nil => exact distinct
  | cons first rest ih => exact ih (distinct_assign first.1 first.2 distinct)

end RecordStore
