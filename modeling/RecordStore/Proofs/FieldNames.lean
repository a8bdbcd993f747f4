import RecordStore.Proofs.FieldClauses
import RecordStore.Proofs.ResolutionOrders

/-!
Names of field objects. An object answers to a name that some class binds it to, the last one of the body
that bound it last. Where no object is bound to two names, every attribute is stored and read under its own
name.
-/

namespace RecordStore

namespace Catalogue

variable {before after catalogue : Catalogue} {spec : Nat}

theorem Adds.getLast?_namesOf {definition : Definition} {body : List (String × Member)}
    (sound : before.Sound) (adds : before.Adds definition after body) {key : String} {id : Nat}
    (bound : (key, .field id) ∈ body) : (namesOf body id).getLast? = some (after.field id).name := by
  have known := (adds.placed_of_bound sound bound).known
  obtain ⟨made, _, fields⟩ := adds.fields
  rw [fields, length_bindNames] at known
  have last := List.getLast?_eq_some_getLast (namesOf_ne_nil bound)
  rw [field_of_bindNames fields known, Field.name_boundTo, last, Option.getD_some]

def Named (catalogue : Catalogue) : Prop :=
  ∀ spec ∈ catalogue.classes, ∀ key id, (key, .field id) ∈ spec.body →
    ∃ owner ∈ catalogue.classes, ((catalogue.field id).name, .field id) ∈ owner.body

theorem Named.define {definition : Definition} (sound : before.Sound)
    (defined : before.define definition = .ok after) (named : before.Named) : after.Named := by
  obtain ⟨body, adds⟩ := sound.adds_of_define defined
  obtain ⟨order, _, classes⟩ := adds.classes
  intro spec listed key id bound
  rw [classes] at listed ⊢
  rcases List.mem_append.mp listed with old | new
  · have kept := named spec old key id bound
    have known := (sound spec old).placed key id bound
    have name := congrArg Field.name (adds.field_of_lt known.known)
    rw [Field.name_boundTo] at name
    cases last : (namesOf body id).getLast? with
    | none =>
        rw [last, Option.getD_none] at name
        obtain ⟨owner, among, owns⟩ := kept
        exact ⟨owner, List.mem_append_left _ among, name ▸ owns⟩
    | some newName =>
        rw [last, Option.getD_some] at name
        exact ⟨_, List.mem_append_right _ List.mem_cons_self,
          name ▸ mem_namesOf.mp (List.mem_of_getLast? last)⟩
  · obtain rfl := List.mem_singleton.mp new
    have last := adds.getLast?_namesOf sound bound
    exact ⟨_, List.mem_append_right _ List.mem_cons_self, mem_namesOf.mp (List.mem_of_getLast? last)⟩

def BindsOnce (catalogue : Catalogue) : Prop :=
  ∀ first ∈ catalogue.classes, ∀ second ∈ catalogue.classes, ∀ entry ∈ fieldEntries first.body,
    ∀ other ∈ fieldEntries second.body, entry.2 = other.2 → entry.1 = other.1

instance (catalogue : Catalogue) : Decidable catalogue.BindsOnce :=
  inferInstanceAs (Decidable (∀ first ∈ catalogue.classes, ∀ second ∈ catalogue.classes,
    ∀ entry ∈ fieldEntries first.body, ∀ other ∈ fieldEntries second.body,
      entry.2 = other.2 → entry.1 = other.1))

def rootNames : List String :=
  ["__filter_fields__", "__init_subclass__", "__init__", "fields", itemsName, "__repr__"]

def SparesRoot (catalogue : Catalogue) : Prop :=
  ∀ spec ∈ catalogue.classes, ∀ entry ∈ spec.body, entry.1 ∉ rootNames

instance (catalogue : Catalogue) : Decidable catalogue.SparesRoot :=
  inferInstanceAs (Decidable (∀ spec ∈ catalogue.classes, ∀ entry ∈ spec.body, entry.1 ∉ rootNames))

def OwnNames (catalogue : Catalogue) : Prop :=
  ∀ spec ∈ catalogue.classes, ∀ key id, (key, .field id) ∈ spec.body → (catalogue.field id).name = key

theorem Named.ownNames (named : catalogue.Named) (bindsOnce : catalogue.BindsOnce) :
    catalogue.OwnNames := by
  intro spec listed key id bound
  obtain ⟨owner, among, owns⟩ := named spec listed key id bound
  exact bindsOnce owner among spec listed _ (mem_fieldEntries.mpr owns) _ (mem_fieldEntries.mpr bound) rfl

theorem Sound.bound_of_member? (sound : catalogue.Sound) (earlier : spec < catalogue.classes.length)
    {key : String} {member : Member} (found : catalogue.member? spec key = some member) :
    ∃ owner ∈ catalogue.classes, (key, member) ∈ owner.body := by
  obtain ⟨id, among, held⟩ := List.exists_of_findSome?_eq_some found
  exact ⟨_, specClass_mem (sound.lt_of_mem_order earlier among), mem_of_lookup held⟩

def declaredBy (catalogue : Catalogue) (spec : Nat) : List (String × Nat) :=
  declarations ((catalogue.specClass spec).order.map fun id => (catalogue.specClass id).body)

theorem exists_mem_order_of_declaredBy {key : String} {object : Nat}
    (declared : (key, object) ∈ catalogue.declaredBy spec) :
    ∃ id ∈ (catalogue.specClass spec).order, (key, .field object) ∈ (catalogue.specClass id).body := by
  obtain ⟨body, among, bound⟩ := exists_mem_of_mem_declarations declared
  obtain ⟨id, listed, rfl⟩ := List.mem_map.mp among
  exact ⟨id, listed, bound⟩

section Sound

variable (sound : catalogue.Sound) (earlier : spec < catalogue.classes.length)
include sound earlier

theorem Sound.declared_eq : (catalogue.specClass spec).declared = (catalogue.declaredBy spec).map Prod.snd :=
  (sound _ (specClass_mem earlier)).declared.trans (collect_eq _)

theorem Sound.name_of_declaredBy (ownNames : catalogue.OwnNames) {entry : String × Nat}
    (declared : entry ∈ catalogue.declaredBy spec) : (catalogue.field entry.2).name = entry.1 := by
  obtain ⟨id, listed, bound⟩ := exists_mem_order_of_declaredBy declared
  exact ownNames _ (specClass_mem (sound.lt_of_mem_order earlier listed)) _ _ bound

theorem Sound.names_fieldsOf (ownNames : catalogue.OwnNames) :
    (catalogue.fieldsOf spec).map Field.name = (catalogue.declaredBy spec).map Prod.fst := by
  rw [fieldsOf, sound.declared_eq earlier, List.map_map, List.map_map]
  exact List.map_congr_left fun entry declared => sound.name_of_declaredBy earlier ownNames declared

theorem Sound.set_eq (ownNames : catalogue.OwnNames) {filter : Filter} (made : filter.spec = spec)
    (key : String) (value : Value) :
    catalogue.set filter key value = ⟨spec, assign key value filter.values⟩ := by
  subst made
  rw [set]
  split
  · rename_i id found
    obtain ⟨owner, among, bound⟩ := sound.bound_of_member? earlier found
    rw [ownNames owner among key id bound]
  · rfl

theorem Sound.setAll_ok_iff (ownNames : catalogue.OwnNames) {values : List (String × Value)}
    {filter : Filter} : catalogue.setAll spec values = .ok filter ↔
      (∀ entry ∈ values, entry.1 ∈ (catalogue.fieldsOf spec).map Field.name) ∧
        filter = ⟨spec, assignAll [] values⟩ := by
  have stored (held : List (String × Value)) :
      values.foldl (fun filter entry => catalogue.set filter entry.1 entry.2) ⟨spec, held⟩ =
        ⟨spec, assignAll held values⟩ := by
    induction values generalizing held with
    | nil => rfl
    | cons entry values ih => rw [List.foldl_cons, sound.set_eq earlier ownNames rfl, ih, assignAll_cons]
  refine foldlM_checked_ok_iff.trans ?_
  simp only [List.contains_iff_mem, stored]
  exact and_congr_right' eq_comm

end Sound

/-- What a filter of a class answers for an attribute when it was made with values: its own value, or the
plain value of the class, or else the empty text. -/
def answer (catalogue : Catalogue) (spec : Nat) (values : List (String × Value)) (key : String) : Value :=
  (values.lookup key).getD
    (match catalogue.member? spec key with
    | some (.plain value) => value
    | _ => Value.empty)

theorem Sound.get_eq (sound : catalogue.Sound) (earlier : spec < catalogue.classes.length)
    (ownNames : catalogue.OwnNames) {key : String} (found : (catalogue.member? spec key).isSome)
    (values : List (String × Value)) :
    catalogue.get ⟨spec, values⟩ key = .ok (catalogue.answer spec values key) := by
  obtain ⟨member, found⟩ := Option.isSome_iff_exists.mp found
  cases member with
  | field id =>
      obtain ⟨owner, among, bound⟩ := sound.bound_of_member? earlier found
      simp only [get, answer, found, ownNames owner among key id bound]
  | plain value => cases held : values.lookup key <;> simp [get, answer, found, held]

end Catalogue

namespace SpecSession

theorem named_run (steps : List SpecStep) : (run steps).catalogue.Named := by
  refine catalogue_of_run ?_ (fun sound defined named => named.define sound defined) steps
  intro spec listed key id bound
  obtain rfl := List.mem_singleton.mp listed
  cases bound

end SpecSession

end RecordStore
