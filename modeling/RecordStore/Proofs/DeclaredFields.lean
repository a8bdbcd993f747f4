import RecordStore.Proofs.FieldNames

/-!
The fields of a class against the order of its classes. Fields are collected from the furthest class to the
nearest, attributes are looked for from the nearest to the furthest; the two agree on every attribute that no
nearer class gives a plain value. A filter holds its values by name, in whatever order they are given.
-/

namespace RecordStore

namespace Catalogue

variable {catalogue : Catalogue} {spec : Nat} {key : String} {object : Nat}

theorem distinct_declaredBy : Distinct (catalogue.declaredBy spec) :=
  distinct_assignAll _ List.nodup_nil

section Sound

variable (sound : catalogue.Sound) (earlier : spec < catalogue.classes.length)
include sound earlier

theorem Sound.nearest_of_declaredBy (declared : (key, object) ∈ catalogue.declaredBy spec) :
    ∃ nearer owner further, (catalogue.specClass spec).order = nearer ++ owner :: further ∧
      (key, .field object) ∈ (catalogue.specClass owner).body ∧
      ∀ id ∈ nearer, ∀ other, (key, .field other) ∉ (catalogue.specClass id).body := by
  have found := lookup_of_mem distinct_declaredBy declared
  rw [declaredBy, lookup_declarations (sound.distinct_bodies earlier), List.findSome?_map] at found
  obtain ⟨nearer, owner, further, order, bound, absent⟩ := List.findSome?_eq_some_iff.mp found
  obtain ⟨member, held, isField⟩ := Option.bind_eq_some_iff.mp bound
  obtain rfl := Member.field?_eq_some.mp isField
  refine ⟨nearer, owner, further, order, mem_of_lookup held, fun id among other again => ?_⟩
  have listed : id ∈ (catalogue.specClass spec).order := order ▸ List.mem_append_left _ among
  have distinct := (sound _ (specClass_mem (sound.lt_of_mem_order earlier listed))).distinct
  have nothing : (((catalogue.specClass id).body.lookup key).bind Member.field?) = none := absent id among
  rw [lookup_of_mem distinct again] at nothing
  cases nothing

theorem Sound.mem_declaredBy_iff : key ∈ (catalogue.declaredBy spec).map Prod.fst ↔
    ∃ id ∈ (catalogue.specClass spec).order, ∃ object,
      (key, .field object) ∈ (catalogue.specClass id).body := by
  constructor
  · intro declared
    obtain ⟨⟨_, object⟩, listed, rfl⟩ := List.mem_map.mp declared
    obtain ⟨id, among, bound⟩ := exists_mem_order_of_declaredBy listed
    exact ⟨id, among, object, bound⟩
  · rintro ⟨id, among, object, bound⟩
    have distinct := (sound _ (specClass_mem (sound.lt_of_mem_order earlier among))).distinct
    have someField : ((catalogue.declaredBy spec).lookup key).isSome := by
      rw [declaredBy, lookup_declarations (sound.distinct_bodies earlier), List.findSome?_map,
        List.findSome?_isSome_iff]
      refine ⟨id, among, ?_⟩
      simp only [Function.comp_apply, lookup_of_mem distinct bound]
      rfl
    obtain ⟨other, declared⟩ := Option.isSome_iff_exists.mp someField
    exact List.mem_map.mpr ⟨_, mem_of_lookup declared, rfl⟩

end Sound

theorem member?_of_nearest {nearer further : List Nat} {owner : Nat}
    (order : (catalogue.specClass spec).order = nearer ++ owner :: further)
    (held : (catalogue.specClass owner).body.lookup key = some (.field object))
    (noField : ∀ id ∈ nearer, ∀ other, (key, .field other) ∉ (catalogue.specClass id).body) :
    catalogue.member? spec key = some (.field object) ∨
      ∃ id ∈ nearer, ∃ value, (key, .plain value) ∈ (catalogue.specClass id).body ∧
        catalogue.member? spec key = some (.plain value) := by
  rw [member?, order, List.findSome?_append]
  cases found : nearer.findSome? fun id => (catalogue.specClass id).body.lookup key with
  | none =>
      left
      rw [Option.none_or, List.findSome?_cons, held]
  | some member =>
      obtain ⟨id, among, bound⟩ := List.exists_of_findSome?_eq_some found
      cases member with
      | field other => exact absurd (mem_of_lookup bound) (noField id among other)
      | plain value => exact .inr ⟨id, among, value, mem_of_lookup bound, rfl⟩

theorem Sound.member?_rootNames (sound : catalogue.Sound) (earlier : spec < catalogue.classes.length)
    (spares : catalogue.SparesRoot) (reserved : key ∈ rootNames) : catalogue.member? spec key = none := by
  cases found : catalogue.member? spec key with
  | none => rfl
  | some member =>
      obtain ⟨owner, among, bound⟩ := sound.bound_of_member? earlier found
      exact absurd reserved (spares owner among _ bound)

section OwnNames

variable (sound : catalogue.Sound) (earlier : spec < catalogue.classes.length)
  (ownNames : catalogue.OwnNames)
include sound earlier ownNames

theorem Sound.nodup_names : ((catalogue.fieldsOf spec).map Field.name).Nodup := by
  rw [sound.names_fieldsOf earlier ownNames]
  exact distinct_declaredBy

theorem Sound.mem_names_iff : key ∈ (catalogue.fieldsOf spec).map Field.name ↔
    ∃ id ∈ (catalogue.specClass spec).order, ∃ object,
      (key, .field object) ∈ (catalogue.specClass id).body := by
  rw [sound.names_fieldsOf earlier ownNames]
  exact sound.mem_declaredBy_iff earlier

theorem Sound.nearest_of_declared (declared : object ∈ (catalogue.specClass spec).declared) :
    ∃ nearer owner further, (catalogue.specClass spec).order = nearer ++ owner :: further ∧
      ((catalogue.field object).name, .field object) ∈ (catalogue.specClass owner).body ∧
      (∀ id ∈ nearer, ∀ other,
        ((catalogue.field object).name, .field other) ∉ (catalogue.specClass id).body) ∧
      (catalogue.member? spec (catalogue.field object).name = some (.field object) ∨
        ∃ id ∈ nearer, ∃ value,
          ((catalogue.field object).name, .plain value) ∈ (catalogue.specClass id).body ∧
          catalogue.member? spec (catalogue.field object).name = some (.plain value)) := by
  rw [sound.declared_eq earlier] at declared
  obtain ⟨⟨key, _⟩, listed, rfl⟩ := List.mem_map.mp declared
  rw [sound.name_of_declaredBy earlier ownNames listed]
  obtain ⟨nearer, owner, further, order, bound, noField⟩ := sound.nearest_of_declaredBy earlier listed
  have among : owner ∈ (catalogue.specClass spec).order :=
    order ▸ List.mem_append_right _ List.mem_cons_self
  have distinct := (sound _ (specClass_mem (sound.lt_of_mem_order earlier among))).distinct
  exact ⟨nearer, owner, further, order, bound, noField,
    member?_of_nearest order (lookup_of_mem distinct bound) noField⟩

theorem Sound.isSome_member? (named : key ∈ (catalogue.fieldsOf spec).map Field.name) :
    (catalogue.member? spec key).isSome := by
  obtain ⟨id, among, object, bound⟩ := (sound.mem_names_iff earlier ownNames).mp named
  have distinct := (sound _ (specClass_mem (sound.lt_of_mem_order earlier among))).distinct
  rw [member?, List.findSome?_isSome_iff]
  exact ⟨id, among, Option.isSome_of_eq_some (lookup_of_mem distinct bound)⟩

theorem Sound.instantiate_eq_ok_iff {values : List (String × Value)} {filter : Filter} :
    catalogue.instantiate spec values = .ok filter ↔ values.lookup receiverName = none ∧
      (∀ entry ∈ values, entry.1 ∈ (catalogue.fieldsOf spec).map Field.name) ∧
        filter = ⟨spec, assignAll [] values⟩ :=
  instantiate_ok_iff.trans (and_congr_right' (sound.setAll_ok_iff earlier ownNames))

theorem Sound.compileFilter_of_made (spares : catalogue.SparesRoot) {values : List (String × Value)}
    (distinct : Distinct values) {filter : Filter}
    (made : catalogue.instantiate spec values = .ok filter) :
    compileFilter catalogue (some filter) = compileReadings (((catalogue.fieldsOf spec).map fun field =>
      (field, catalogue.answer spec values field.name)).map Field.reading) := by
  obtain ⟨_, known, rfl⟩ := (sound.instantiate_eq_ok_iff earlier ownNames).mp made
  have held (key : String) : (assignAll [] values).lookup key = values.lookup key :=
    lookup_assignAll_nil key distinct
  have noAttribute : catalogue.member? spec itemsName = none :=
    sound.member?_rootNames earlier spares (by decide)
  have notGiven : values.lookup itemsName = none := by
    refine List.lookup_eq_none_iff.mpr fun entry listed => ?_
    have found := sound.isSome_member? earlier ownNames (known entry listed)
    refine bne_iff_ne.mpr fun same => ?_
    rw [← same, noAttribute] at found
    cases found
  have callable : catalogue.checkCallable ⟨spec, assignAll [] values⟩ itemsName = .ok () := by
    simp only [checkCallable, get, noAttribute, held, notGiven]
  rw [compileFilter, callable, ok_bind, readings, List.map_map]
  congr 1
  refine List.map_congr_left fun field listed => ?_
  have found := sound.isSome_member? earlier ownNames (List.mem_map_of_mem listed)
  rw [sound.get_eq earlier ownNames found, answer, held]
  rfl

end OwnNames

/-- A class whose order goes on with the order of its base declares what the base does, and then its own. -/
theorem Sound.names_extend (sound : catalogue.Sound) (ownNames : catalogue.OwnNames) {base : Nat}
    (earlier : spec < catalogue.classes.length) (earlierBase : base < catalogue.classes.length)
    (order : (catalogue.specClass spec).order = spec :: (catalogue.specClass base).order) :
    (catalogue.fieldsOf base).map Field.name <+: (catalogue.fieldsOf spec).map Field.name := by
  have split : catalogue.declaredBy spec =
      assignAll (catalogue.declaredBy base) (fieldEntries (catalogue.specClass spec).body) := by
    rw [declaredBy, order, List.map_cons, declarations_cons]
    rfl
  rw [sound.names_fieldsOf earlier ownNames, sound.names_fieldsOf earlierBase ownNames, split]
  exact names_prefix_assignAll _ _

end Catalogue

namespace SpecSession

theorem order_of_single {earlier later : List SpecStep} {definition : Definition} {after : Catalogue}
    {name : String} {base : Nat} (defined : (run earlier).catalogue.define definition = .ok after)
    (single : definition.bases = [name]) (found : (run earlier).catalogue.find? name = some base) :
    let catalogue := (run (earlier ++ .define definition :: later)).catalogue
    let spec := (run earlier).catalogue.classes.length
    spec < catalogue.classes.length ∧ base < catalogue.classes.length ∧
      (catalogue.specClass spec).order = spec :: (catalogue.specClass base).order := by
  intro catalogue spec
  have goesOn := Catalogue.classes_prefix_of_define defined
  have follows : after.classes <+: catalogue.classes := classes_prefix_of_split defined
  have known : base < (run earlier).catalogue.classes.length := Catalogue.lt_of_find? found
  have added : spec < after.classes.length := by
    obtain ⟨_, _, _, _, _, classes⟩ := Catalogue.define_class defined
    rw [classes, List.length_append]
    exact Nat.lt_add_one _
  have order := (ordered_run earlier).order_of_single defined single found
  refine ⟨Nat.lt_of_lt_of_le added follows.length_le, Nat.lt_of_lt_of_le known
    (goesOn.trans follows).length_le, ?_⟩
  rw [Catalogue.specClass_of_extends follows added, order,
    Catalogue.specClass_of_extends (goesOn.trans follows) known]

/-- After any run that binds no field object to two names and leaves the names of the root class alone: the
fields of a class are the attributes that its order binds to fields, each once and by the name of the
attribute; each is the object of the nearest class that binds the attribute to a field, and is what the class
finds there unless an even nearer class has a plain value. Over a single base they begin with the fields of
the base. Values in another order make a filter with the same clauses, those of the fields in their order. -/
theorem fields_are_the_nearest_declarations (steps : List SpecStep)
    (bindsOnce : (run steps).catalogue.BindsOnce) (spares : (run steps).catalogue.SparesRoot) :
    let catalogue := (run steps).catalogue
    (∀ spec < catalogue.classes.length,
      ((catalogue.fieldsOf spec).map Field.name).Nodup ∧
      (∀ key, key ∈ (catalogue.fieldsOf spec).map Field.name ↔
        ∃ id ∈ (catalogue.specClass spec).order, ∃ object,
          (key, .field object) ∈ (catalogue.specClass id).body) ∧
      (∀ object ∈ (catalogue.specClass spec).declared, ∃ nearer owner further,
        (catalogue.specClass spec).order = nearer ++ owner :: further ∧
        ((catalogue.field object).name, .field object) ∈ (catalogue.specClass owner).body ∧
        (∀ id ∈ nearer, ∀ other,
          ((catalogue.field object).name, .field other) ∉ (catalogue.specClass id).body) ∧
        (catalogue.member? spec (catalogue.field object).name = some (.field object) ∨
          ∃ id ∈ nearer, ∃ value,
            ((catalogue.field object).name, .plain value) ∈ (catalogue.specClass id).body ∧
            catalogue.member? spec (catalogue.field object).name = some (.plain value))) ∧
      ∀ values permuted filter, Distinct values → values.Perm permuted →
        catalogue.instantiate spec values = .ok filter →
        (∃ other, catalogue.instantiate spec permuted = .ok other ∧
          compileFilter catalogue (some other) = compileFilter catalogue (some filter)) ∧
        ∀ clauses, compileFilter catalogue (some filter) = .ok clauses →
          clauses = (catalogue.fieldsOf spec).filterMap fun field =>
            field.clause? (catalogue.answer spec values field.name)) ∧
    ∀ earlier definition later after name base, steps = earlier ++ .define definition :: later →
      (run earlier).catalogue.define definition = .ok after → definition.bases = [name] →
      (run earlier).catalogue.find? name = some base →
      (catalogue.fieldsOf base).map Field.name <+:
        (catalogue.fieldsOf (run earlier).catalogue.classes.length).map Field.name := by
  intro catalogue
  have sound := (orderly_run steps).sound
  have ownNames := (named_run steps).ownNames bindsOnce
  refine ⟨fun spec earlier => ⟨sound.nodup_names earlier ownNames,
    fun key => sound.mem_names_iff earlier ownNames,
    fun object => sound.nearest_of_declared earlier ownNames,
    fun values permuted filter distinct reordered made => ⟨?reordered, ?inOrder⟩⟩, ?single⟩
  case reordered =>
    have distinctPermuted : Distinct permuted := (reordered.map Prod.fst).nodup_iff.mp distinct
    have sameLookup := lookup_of_perm distinct reordered
    obtain ⟨notReceiver, known, _⟩ := (sound.instantiate_eq_ok_iff earlier ownNames).mp made
    have madeToo := (sound.instantiate_eq_ok_iff earlier ownNames).mpr
      ⟨(sameLookup Catalogue.receiverName).trans notReceiver,
        fun entry listed => known entry (reordered.mem_iff.mpr listed), rfl⟩
    refine ⟨_, madeToo, ?_⟩
    rw [sound.compileFilter_of_made earlier ownNames spares distinct made,
      sound.compileFilter_of_made earlier ownNames spares distinctPermuted madeToo]
    simp only [Catalogue.answer, sameLookup]
  case inOrder =>
    intro clauses compiled
    rw [sound.compileFilter_of_made earlier ownNames spares distinct made] at compiled
    obtain ⟨_, rfl⟩ := compileReadings_items_ok_iff.mp compiled
    rw [List.filterMap_map]
    rfl
  case single =>
    rintro earlier definition later after name base rfl defined single found
    obtain ⟨added, known, order⟩ := order_of_single defined single found
    exact sound.names_extend ownNames added known order

/-- Visitors are staff and guests at once, who both are people. Staff declare the name anew; guests give all
people an age. -/
def visitors : List SpecStep :=
  [.define ⟨"PersonFilter", [Catalogue.rootName],
      [("name", .field none none), ("age", .field none none)], by decide⟩,
    .define ⟨"StaffFilter", ["PersonFilter"],
      [("team", .field none none), ("name", .field none (some (.text "LIKE")))], by decide⟩,
    .define ⟨"GuestFilter", ["PersonFilter"],
      [("host", .field none none), ("age", .plain (.integer 30))], by decide⟩,
    .define ⟨"VisitorFilter", ["StaffFilter", "GuestFilter"], [], by decide⟩]

/-- The fields of visitors are those of people, of guests and of staff; the name is the one of staff, and
guests hide the age. The fields of people come first among those of guests. -/
theorem visitors_have_the_fields_of_all :
    let catalogue := (run visitors).catalogue
    catalogue.fieldsOf 4 = [⟨"name", some "name", .like⟩, ⟨"age", some "age", .equality⟩,
      ⟨"host", some "host", .equality⟩, ⟨"team", some "team", .equality⟩] ∧
    (∃ nearer owner further, [4, 2, 3, 1, 0] = nearer ++ owner :: further ∧
      ("age", .field 1) ∈ (catalogue.specClass owner).body ∧
      ∃ id ∈ nearer, ∃ value, ("age", .plain value) ∈ (catalogue.specClass id).body ∧
        catalogue.member? 4 "age" = some (.plain value)) ∧
    (∃ other, catalogue.instantiate 4 [("team", .text "core"), ("name", .text "Ada")] = .ok other ∧
      compileFilter catalogue (some other) =
        .ok [⟨"name", .known .like, [.text "%ada%"]⟩, ⟨"age", .known .equality, [.integer 30]⟩,
          ⟨"team", .known .equality, [.text "core"]⟩]) ∧
    ["name", "age"] <+: (catalogue.fieldsOf 3).map Field.name := by
  intro catalogue
  obtain ⟨each, single⟩ := fields_are_the_nearest_declarations visitors (by decide) (by decide)
  obtain ⟨_, _, nearest, permuted⟩ := each 4 (by decide)
  obtain ⟨nearer, owner, further, order, bound, _, found⟩ := nearest 1 (by decide)
  have made : catalogue.instantiate 4 [("name", .text "Ada"), ("team", .text "core")] = .ok _ := rfl
  obtain ⟨⟨other, madeToo, same⟩, _⟩ := permuted _ _ _ (by decide) (List.Perm.swap _ _ []) made
  refine ⟨rfl, ⟨nearer, owner, further, order, bound, found.resolve_left nofun⟩, ⟨other, madeToo, same⟩, ?_⟩
  exact single (visitors.take 2) _ (visitors.drop 3) _ "PersonFilter" 1 rfl rfl rfl rfl

end SpecSession

end RecordStore
