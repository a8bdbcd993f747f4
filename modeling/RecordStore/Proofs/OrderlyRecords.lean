import RecordStore.Proofs.Entries
import RecordStore.Proofs.SentCells

/-!
How records stand to the rows of their identities. A record is unknown to the store, or it holds the
identity under which the store knows it, or that was cleared or lost; what sessions do to records keeps
this.
-/

namespace RecordStore

namespace Row

theorem lookup_values {model : Model} {attr : Attribute} (row : Row) (listed : attr ∈ model.attributes) :
    (row.values model).lookup attr.name = some (row.value attr) := by
  refine lookup_of_mem ?_ (List.mem_map.mpr ⟨attr, listed, rfl⟩)
  simpa [Distinct, values, Function.comp_def] using model.nodup_names

theorem distinct_values (model : Model) (row : Row) : Distinct (row.values model) := by
  simpa [Distinct, values, Function.comp_def] using model.nodup_names

theorem lookup_identity (model : Model) (row : Row) :
    (row.values model).lookup Attribute.identity.name = some (.integer row.id) :=
  row.lookup_values model.identity_mem

end Row

namespace Record

variable {record : Record} {model : Model} {row : Row}

/-- How a record stands to the row of its identity: the store does not know it; or it holds the identity
under which the store knows it; or that was set to null, which no update accepts; or the record has
to be read again. -/
inductive Stands (record : Record) : Prop
  | unknown (keyless : record.key = none)
      (identity : ∀ id, record.sentIdentity? = some id → ∃ number, id = .integer number)
  | loaded (number : Int) (keyed : record.key = some (.integer number))
      (held : record.get? Attribute.identity.name = some (.integer number))
      (before : ∀ before, record.changes.lookup Attribute.identity.name = some before →
        before = some (.integer number))
  | cleared (number : Int) (keyed : record.key = some (.integer number))
      (held : record.get? Attribute.identity.name = some .null)
      (before : record.changes.lookup Attribute.identity.name = some (some (.integer number)))
  | lost (number : Int) (keyed : record.key = some (.integer number))
      (missing : record.get? Attribute.identity.name = none)
      (unchanged : record.changes.lookup Attribute.identity.name = none)
      (expired : record.expired = true)

theorem Stands.of_unchanged (number : Int) (keyed : record.key = some (.integer number))
    (held : record.get? Attribute.identity.name = some (.integer number))
    (unchanged : record.changes = []) : record.Stands := by
  refine .loaded number keyed held fun before changed => ?_
  rw [unchanged] at changed
  cases changed

structure Orderly (record : Record) : Prop where
  distinct : Distinct record.values
  stands : record.Stands

def Present (record : Record) : Prop :=
  record.key = none ∨ (record.get? Attribute.identity.name).isSome

def Admits (record : Record) (id : Value) : Prop :=
  id = .null ∨ ∃ number, id = .integer number ∧ ∀ key ∈ record.key, key = .integer number

theorem Stands.of_same {other : Record} (stands : record.Stands) (key : other.key = record.key)
    (held : other.get? Attribute.identity.name = record.get? Attribute.identity.name)
    (changed : other.changes.lookup Attribute.identity.name =
      record.changes.lookup Attribute.identity.name)
    (expired : record.expired = true → other.expired = true) : other.Stands := by
  cases stands with
  | unknown keyless identity =>
      refine .unknown (key.trans keyless) fun id sent => identity id ?_
      rwa [sentIdentity?, held] at sent
  | loaded number keyed held' before =>
      exact .loaded number (key.trans keyed) (held.trans held') fun first there =>
        before first (changed.symm.trans there)
  | cleared number keyed held' before =>
      exact .cleared number (key.trans keyed) (held.trans held') (changed.trans before)
  | lost number keyed missing unchanged isExpired =>
      exact .lost number (key.trans keyed) (held.trans missing) (changed.trans unchanged)
        (expired isExpired)

theorem Orderly.of_same {other : Record} (orderly : record.Orderly)
    (values : other.values = record.values) (changes : other.changes = record.changes)
    (key : other.key = record.key) (expired : other.expired = record.expired) : other.Orderly :=
  ⟨values ▸ orderly.distinct, orderly.stands.of_same key (by rw [get?, values, get?])
    (by rw [changes]) (by rw [expired]; exact id)⟩

theorem Orderly.key_isInteger (orderly : record.Orderly) {key : Value} (keyed : record.key = some key) :
    ∃ number, key = .integer number := by
  have known {number : Int} (held : record.key = some (.integer number)) :
      ∃ number, key = .integer number := ⟨number, Option.some.inj (keyed.symm.trans held)⟩
  cases orderly.stands with
  | unknown keyless _ => cases keyed.symm.trans keyless
  | loaded _ held _ _ => exact known held
  | cleared _ held _ _ => exact known held
  | lost _ held _ _ _ => exact known held

theorem Orderly.sent_isInteger (orderly : record.Orderly) (keyless : record.key = none) :
    ∀ id, record.sentIdentity? = some id → ∃ number, id = .integer number := by
  cases orderly.stands with
  | unknown _ identity => exact identity
  | loaded _ keyed _ _ => cases keyless.symm.trans keyed
  | cleared _ keyed _ _ => cases keyless.symm.trans keyed
  | lost _ keyed _ _ _ => cases keyless.symm.trans keyed

theorem Orderly.present (orderly : record.Orderly) (fresh : record.expired = false) : record.Present := by
  cases orderly.stands with
  | unknown keyless _ => exact .inl keyless
  | loaded _ _ held _ => exact .inr (by rw [held]; rfl)
  | cleared _ _ held _ => exact .inr (by rw [held]; rfl)
  | lost _ _ _ _ expired => cases fresh.symm.trans expired

@[simp] theorem key_set (name : String) (value : Value) (record : Record) :
    (record.set name value).key = record.key := rfl

theorem get?_set_self (name : String) (value : Value) (record : Record) :
    (record.set name value).get? name = some value := lookup_assign_self _ _ _

theorem get?_set_of_ne {name other : String} (different : other ≠ name) (value : Value)
    (record : Record) : (record.set name value).get? other = record.get? other :=
  lookup_assign_of_ne different _ _

theorem lookup_changes_set_self (name : String) (value : Value) (record : Record) :
    (record.set name value).changes.lookup name =
      some ((record.changes.lookup name).getD (record.get? name)) := by
  simp only [set]
  cases changed : record.changes.lookup name with
  | some before => simp [changed]
  | none => simp [List.lookup_append, changed]

theorem lookup_changes_set_of_ne {name other : String} (different : other ≠ name) (value : Value)
    (record : Record) :
    (record.set name value).changes.lookup other = record.changes.lookup other := by
  simp only [set]
  split
  · rfl
  · have skip : (other == name) = false := by simpa using different
    simp [List.lookup_append, List.lookup_cons, skip]

theorem present_set {name : String} {value : Value} (present : record.Present) :
    (record.set name value).Present := by
  by_cases same : Attribute.identity.name = name
  · subst same
    exact .inr (by simp [get?_set_self])
  · rw [Present, key_set, get?_set_of_ne same]
    exact present

theorem orderly_set {name : String} {value : Value} (orderly : record.Orderly)
    (admits : name = Attribute.identity.name → record.Present ∧ record.Admits value) :
    (record.set name value).Orderly := by
  refine ⟨distinct_assign name value orderly.distinct, ?_⟩
  by_cases same : name = Attribute.identity.name
  · subst same
    obtain ⟨present, admits⟩ := admits rfl
    have held := get?_set_self Attribute.identity.name value record
    -- A record that the store knows only takes its own identity, or null.
    have known {number : Int} (keyed : record.key = some (.integer number))
        (before : (record.changes.lookup Attribute.identity.name).getD
          (record.get? Attribute.identity.name) = some (.integer number)) :
        (record.set Attribute.identity.name value).Stands := by
      have changed := lookup_changes_set_self Attribute.identity.name value record
      rw [before] at changed
      rcases admits with rfl | ⟨other, rfl, own⟩
      · exact .cleared number keyed held changed
      · obtain rfl : number = other := Value.integer.inj (own _ keyed)
        refine .loaded number keyed held fun first there => ?_
        exact (Option.some.inj (changed.symm.trans there)).symm
    cases orderly.stands with
    | unknown keyless identity =>
        refine .unknown keyless fun id sent => ?_
        rw [sentIdentity?, held] at sent
        rcases admits with rfl | ⟨number, rfl, _⟩
        · cases sent
        · exact ⟨number, (Option.some.inj sent).symm⟩
    | loaded number keyed own before =>
        refine known keyed ?_
        cases changed : record.changes.lookup Attribute.identity.name with
        | none => exact own
        | some first => exact before first changed
    | cleared number keyed _ before => exact known keyed (by rw [before]; rfl)
    | lost number keyed missing _ _ =>
        rcases present with keyless | present
        · rw [keyed] at keyless
          cases keyless
        · rw [missing] at present
          cases present
  · exact orderly.stands.of_same rfl (get?_set_of_ne (Ne.symm same) _ _)
      (lookup_changes_set_of_ne (Ne.symm same) _ _) id

theorem orderly_setAll {values : List (String × Value)} (orderly : record.Orderly)
    (present : record.Present)
    (admits : ∀ id, (Attribute.identity.name, id) ∈ values → record.Admits id) :
    (record.setAll values).Orderly := by
  induction values generalizing record with
  | nil => exact orderly
  | cons entry values ih =>
      refine ih (orderly_set orderly ?_) (present_set present) fun id listed => ?_
      · rintro same
        exact ⟨present, admits entry.2 (by simp [← same])⟩
      · exact admits id (List.mem_cons_of_mem _ listed)

theorem orderly_load (own : ∀ key ∈ record.key, key = .integer row.id) :
    (record.load (row.values model)).Orderly := by
  have held : (record.load (row.values model)).get? Attribute.identity.name =
      some (.integer row.id) := row.lookup_identity model
  refine ⟨row.distinct_values model, ?_⟩
  cases key : record.key with
  | none =>
      refine .unknown key fun id sent => ⟨row.id, ?_⟩
      rw [sentIdentity?, held] at sent
      exact (Option.some.inj sent).symm
  | some value =>
      exact .of_unchanged row.id (key.trans (congrArg some (own value key))) held rfl

theorem get?_fill (record : Record) (values : List (String × Value)) (name : String) :
    (record.fill values).get? name = (record.get? name).or ((values.filter fun entry =>
      (record.get? entry.1).isNone && (record.changes.lookup entry.1).isNone).lookup name) :=
  List.lookup_append

theorem orderly_fill (orderly : record.Orderly) (own : record.key = some (.integer row.id)) :
    (record.fill (row.values model)).Orderly := by
  constructor
  · rw [Distinct, fill, List.map_append, List.nodup_append]
    refine ⟨orderly.distinct, distinct_filter _ (row.distinct_values model), ?_⟩
    rintro name held _ missing rfl
    obtain ⟨⟨_, value⟩, listed, rfl⟩ := List.mem_map.mp held
    obtain ⟨⟨_, other⟩, filtered, rfl⟩ := List.mem_map.mp missing
    have isNone := (List.mem_filter.mp filtered).2
    rw [get?, lookup_of_mem orderly.distinct listed] at isNone
    cases isNone
  · have filled := record.get?_fill (row.values model) Attribute.identity.name
    cases orderly.stands with
    | unknown keyless _ =>
        rw [own] at keyless
        cases keyless
    | loaded number keyed held before =>
        rw [held, Option.some_or] at filled
        exact .loaded number keyed filled before
    | cleared number keyed held before =>
        rw [held, Option.some_or] at filled
        exact .cleared number keyed filled before
    | lost number keyed missing unchanged _ =>
        -- What is missing is read from the row, which has the identity of the record.
        have read : ((row.values model).filter fun entry => (record.get? entry.1).isNone &&
            (record.changes.lookup entry.1).isNone).lookup Attribute.identity.name =
            some (.integer row.id) := by
          refine lookup_of_mem (distinct_filter _ (row.distinct_values model)) ?_
          refine List.mem_filter.mpr ⟨mem_of_lookup (row.lookup_identity model), ?_⟩
          rw [missing, unchanged]
          rfl
        rw [missing, Option.none_or, read] at filled
        refine .loaded row.id own filled fun before changed => ?_
        rw [fill, unchanged] at changed
        cases changed

theorem present_fill (own : record.key = some (.integer row.id)) (orderly : record.Orderly) :
    (record.fill (row.values model)).Present :=
  (orderly_fill orderly own).present rfl

theorem get?_unstamped (record : Record) :
    ({ record with values := unassign Attribute.updated.name record.values } : Record).get?
      Attribute.identity.name = record.get? Attribute.identity.name :=
  lookup_unassign_of_ne (by decide) _

theorem orderly_expire (orderly : record.Orderly) : record.expire.Orderly := by
  refine ⟨List.nodup_nil, ?_⟩
  cases orderly.stands with
  | unknown keyless _ => exact .unknown keyless fun id sent => by cases sent
  | loaded number keyed _ _ => exact .lost number keyed rfl rfl rfl
  | cleared number keyed _ _ => exact .lost number keyed rfl rfl rfl
  | lost number keyed _ _ _ => exact .lost number keyed rfl rfl rfl

theorem orderly_forget (orderly : record.Orderly) : record.forget.Orderly := by
  refine ⟨orderly.distinct, .unknown rfl fun id sent => ?_⟩
  have same : record.sentIdentity? = some id := sent
  cases orderly.stands with
  | unknown _ identity => exact identity id same
  | loaded number _ held _ =>
      rw [sentIdentity?, held] at same
      exact ⟨number, (Option.some.inj same).symm⟩
  | cleared _ _ held _ =>
      rw [sentIdentity?, held] at same
      cases same
  | lost _ _ missing _ _ =>
      rw [sentIdentity?, missing] at same
      cases same

def Ripe (record : Record) : Prop :=
  ∃ number, record.get? Attribute.identity.name = some (.integer number) ∧
    ∀ key ∈ record.key, key = .integer number

theorem orderly_settled {number : Int} (distinct : Distinct record.values)
    (held : record.get? Attribute.identity.name = some (.integer number)) :
    ({ record with changes := [], key := some (.integer number) } : Record).Orderly :=
  ⟨distinct, .of_unchanged number rfl held rfl⟩

end Record
end RecordStore
