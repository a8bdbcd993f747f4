import RecordStore.Proofs.FieldNames

/-!
Filters of one value, of a class directly over the root class. The class takes the value under the name that
the field object answers to, which is the last of the attributes that are bound to the object. Each of these
attributes then reads the value, and each gives its clause.
-/

namespace RecordStore

namespace Catalogue

variable {catalogue : Catalogue} {spec id : Nat} {key : String} {value : Value}

theorem instantiate_receiver (catalogue : Catalogue) (spec : Nat) (value : Value) :
    catalogue.instantiate spec [(receiverName, value)] =
      .error (.repeatedArgument (rootName ++ ".__init__") receiverName) := by
  simp [instantiate]

theorem instantiate_single (apart : key ≠ receiverName) (value : Value) :
    catalogue.instantiate spec [(key, value)] =
      if key ∈ (catalogue.fieldsOf spec).map Field.name then .ok (catalogue.set ⟨spec, []⟩ key value)
      else .error (.unexpectedField (catalogue.specClass spec).name key) := by
  have notReceiver : (receiverName == key) = false := by simpa using Ne.symm apart
  rw [instantiate, List.lookup_cons, notReceiver]
  simp only [List.lookup_nil, Option.isSome_none, Bool.false_eq_true, if_false, setAll, List.foldlM_cons,
    List.contains_iff_mem]
  split <;> rfl

/-- A class as its definition directly over the root class leaves it: its body is all that it has, and its
field objects answer to the last names that the body gives them. -/
structure Direct (catalogue : Catalogue) (spec : Nat) : Prop where
  distinct : Distinct (catalogue.specClass spec).body
  finds : ∀ key, catalogue.member? spec key = (catalogue.specClass spec).body.lookup key
  declared : (catalogue.specClass spec).declared =
    (fieldEntries (catalogue.specClass spec).body).map Prod.snd
  lastName : ∀ {key id}, (key, .field id) ∈ (catalogue.specClass spec).body →
    (namesOf (catalogue.specClass spec).body id).getLast? = some (catalogue.field id).name

theorem Sound.direct_of_adds {before after : Catalogue} {definition : Definition}
    {body : List (String × Member)} (sound : before.Sound) (adds : before.Adds definition after body)
    (order : (after.specClass before.classes.length).order = [before.classes.length, 0])
    (root : (after.specClass 0).body = []) : after.Direct before.classes.length := by
  have self := adds.body_eq
  obtain ⟨_, _, classes⟩ := adds.classes
  have listed : before.classes.length < after.classes.length := by
    rw [classes, List.length_append]
    exact Nat.lt_add_one _
  have soundClass := adds.sound sound _ (specClass_mem listed)
  constructor
  case distinct => exact soundClass.distinct
  case finds =>
    intro key
    rw [member?, order, List.findSome?_cons, List.findSome?_cons, root]
    cases (after.specClass before.classes.length).body.lookup key <;> rfl
  case declared =>
    rw [soundClass.declared, order, List.map_cons, List.map_singleton, root, collect_eq, declarations_cons]
    exact congrArg (List.map Prod.snd) (assignAll_eq_append (distinct_fieldEntries soundClass.distinct))
  case lastName =>
    intro key id bound
    rw [self] at bound ⊢
    exact adds.getLast?_namesOf sound bound

section Direct

variable (direct : catalogue.Direct spec)
include direct

theorem Direct.fieldsOf_eq : catalogue.fieldsOf spec =
    (fieldEntries (catalogue.specClass spec).body).map fun entry => catalogue.field entry.2 := by
  rw [fieldsOf, direct.declared, List.map_map]
  rfl

theorem Direct.name_bound (bound : (key, .field id) ∈ (catalogue.specClass spec).body) :
    ((catalogue.field id).name, .field id) ∈ (catalogue.specClass spec).body :=
  mem_namesOf.mp (List.mem_of_getLast? (direct.lastName bound))

theorem Direct.eq_of_name {other : Nat} {otherKey : String}
    (bound : (key, .field id) ∈ (catalogue.specClass spec).body)
    (otherBound : (otherKey, .field other) ∈ (catalogue.specClass spec).body)
    (same : (catalogue.field other).name = key) : other = id := by
  have again := direct.name_bound otherBound
  rw [same] at again
  have found := (lookup_of_mem direct.distinct again).symm.trans (lookup_of_mem direct.distinct bound)
  exact Member.field.inj (Option.some.inj found)

theorem Direct.mem_names_iff (bound : (key, .field id) ∈ (catalogue.specClass spec).body) :
    key ∈ (catalogue.fieldsOf spec).map Field.name ↔ key = (catalogue.field id).name := by
  rw [direct.fieldsOf_eq, List.map_map, List.mem_map]
  constructor
  · rintro ⟨⟨otherKey, other⟩, listed, same⟩
    obtain rfl := direct.eq_of_name bound (mem_fieldEntries.mp listed) same
    exact same.symm
  · exact fun same => ⟨(key, id), mem_fieldEntries.mpr bound, same.symm⟩

theorem Direct.instantiate_other_name (bound : (key, .field id) ∈ (catalogue.specClass spec).body)
    (apart : key ≠ receiverName) (otherName : key ≠ (catalogue.field id).name) (value : Value) :
    catalogue.instantiate spec [(key, value)] =
      .error (.unexpectedField (catalogue.specClass spec).name key) := by
  rw [instantiate_single apart, if_neg ((direct.mem_names_iff bound).not.mpr otherName)]

theorem Direct.instantiate_name (bound : (key, .field id) ∈ (catalogue.specClass spec).body)
    (apart : key ≠ receiverName) (answers : key = (catalogue.field id).name) (value : Value) :
    catalogue.instantiate spec [(key, value)] = .ok ⟨spec, [(key, value)]⟩ := by
  have stored : catalogue.set ⟨spec, []⟩ key value = ⟨spec, [(key, value)]⟩ := by
    simp only [set, direct.finds, lookup_of_mem direct.distinct bound, ← answers, assign]
  rw [instantiate_single apart, if_pos ((direct.mem_names_iff bound).mpr answers), stored]

theorem Direct.get_bound (bound : (key, .field id) ∈ (catalogue.specClass spec).body)
    (answers : key = (catalogue.field id).name) {other : Nat} {otherKey : String}
    (otherBound : (otherKey, .field other) ∈ (catalogue.specClass spec).body) (value : Value) :
    catalogue.get ⟨spec, [(key, value)]⟩ otherKey = .ok (if other = id then value else .empty) := by
  simp only [get, direct.finds, lookup_of_mem direct.distinct otherBound]
  by_cases same : other = id
  · subst same
    simp [← answers]
  · have different : ((catalogue.field other).name == key) = false :=
      beq_eq_false_iff_ne.mpr fun name => same (direct.eq_of_name bound otherBound name)
    simp [List.lookup_cons, different, same]

theorem Direct.readings_eq (bound : (key, .field id) ∈ (catalogue.specClass spec).body)
    (answers : key = (catalogue.field id).name) (value : Value) :
    catalogue.readings ⟨spec, [(key, value)]⟩ =
      ((fieldEntries (catalogue.specClass spec).body).map fun entry =>
        (catalogue.field entry.2, if entry.2 = id then value else .empty)).map Field.reading := by
  rw [readings, direct.fieldsOf_eq, List.map_map, List.map_map]
  refine List.map_congr_left fun entry listed => ?_
  have named := direct.name_bound (mem_fieldEntries.mp listed)
  exact Prod.ext rfl (direct.get_bound bound answers named value)

theorem Direct.compileReadings_eq (bound : (key, .field id) ∈ (catalogue.specClass spec).body)
    (answers : key = (catalogue.field id).name) (accepts : (catalogue.field id).Accepts value) :
    compileReadings (catalogue.readings ⟨spec, [(key, value)]⟩) =
      .ok ((namesOf (catalogue.specClass spec).body id).flatMap fun _ =>
        ((catalogue.field id).clause? value).toList) := by
  rw [direct.readings_eq bound answers, compileReadings_items_ok_iff]
  constructor
  · rw [List.forall_mem_map]
    intro entry _
    dsimp only
    split
    · rename_i same
      exact same ▸ accepts
    · exact fun given => absurd given (by decide)
  · rw [List.filterMap_map, namesOf_eq_filterMap, ← List.filterMap_eq_flatMap_toList,
      List.filterMap_filterMap]
    congr 1
    funext entry
    by_cases same : entry.2 = id
    · simp [same]
    · simp [same, Field.clause?_of_isAbsent (show Value.empty.isAbsent = true by decide)]

theorem Direct.compileFilter_eq (bound : (key, .field id) ∈ (catalogue.specClass spec).body)
    (answers : key = (catalogue.field id).name) (accepts : (catalogue.field id).Accepts value)
    (visible : (catalogue.specClass spec).body.lookup itemsName = none) :
    compileFilter catalogue (some ⟨spec, [(key, value)]⟩) =
      .ok ((namesOf (catalogue.specClass spec).body id).flatMap fun _ =>
        ((catalogue.field id).clause? value).toList) := by
  have different : (itemsName == key) = false := by
    refine beq_eq_false_iff_ne.mpr fun same => ?_
    rw [same, lookup_of_mem direct.distinct bound] at visible
    cases visible
  have callable : catalogue.checkCallable ⟨spec, [(key, value)]⟩ itemsName = .ok () := by
    simp only [checkCallable, get, direct.finds, visible, List.lookup_cons, different, List.lookup_nil]
  rw [compileFilter, callable, ok_bind, direct.compileReadings_eq bound answers accepts]

theorem Direct.compileFilter_hidden (hides : ((catalogue.specClass spec).body.lookup itemsName).isSome)
    (values : List (String × Value)) : ∃ hidden, catalogue.get ⟨spec, values⟩ itemsName = .ok hidden ∧
      compileFilter catalogue (some ⟨spec, values⟩) = .error (.notCallable hidden.typeName) := by
  obtain ⟨member, held⟩ := Option.isSome_iff_exists.mp hides
  have read : ∃ hidden, catalogue.get ⟨spec, values⟩ itemsName = .ok hidden := by
    simp only [get, direct.finds, held]
    cases member with
    | field id => exact ⟨_, rfl⟩
    | plain value => cases values.lookup itemsName <;> exact ⟨_, rfl⟩
  obtain ⟨hidden, read⟩ := read
  refine ⟨hidden, read, ?_⟩
  rw [compileFilter, checkCallable, read]
  rfl

end Direct

/-- Whether a value makes a filter that has it at one attribute, is empty at every other field, and is
compiled to the clause of the one field, if it restricts anything. -/
def TakesAlone (catalogue : Catalogue) (spec : Nat) (key : String) (id : Nat) (value : Value) : Prop :=
  ∃ filter, catalogue.instantiate spec [(key, value)] = .ok filter ∧
    catalogue.get filter key = .ok value ∧
    (∀ otherKey other, (otherKey, .field other) ∈ (catalogue.specClass spec).body → otherKey ≠ key →
      catalogue.get filter otherKey = .ok .empty) ∧
    compileFilter catalogue (some filter) = .ok ((catalogue.field id).clause? value).toList

section Direct

variable (direct : catalogue.Direct spec)
include direct

theorem Direct.takesAlone (bound : (key, .field id) ∈ (catalogue.specClass spec).body)
    (alone : namesOf (catalogue.specClass spec).body id = [key]) (apart : key ≠ receiverName)
    (visible : (catalogue.specClass spec).body.lookup itemsName = none)
    (accepts : (catalogue.field id).Accepts value) : catalogue.TakesAlone spec key id value := by
  have last := direct.lastName bound
  rw [alone] at last
  have answers : key = (catalogue.field id).name := Option.some.inj last
  refine ⟨_, direct.instantiate_name bound apart answers value, ?_, ?_, ?_⟩
  · rw [direct.get_bound bound answers bound, if_pos rfl]
  · intro otherKey other otherBound different
    have apart : other ≠ id := by
      rintro rfl
      have among := mem_namesOf.mpr otherBound
      rw [alone] at among
      exact different (List.mem_singleton.mp among)
    rw [direct.get_bound bound answers otherBound, if_neg apart]
  · rw [direct.compileFilter_eq bound answers accepts visible, alone, List.flatMap_singleton]

theorem Direct.of_takesAlone (bound : (key, .field id) ∈ (catalogue.specClass spec).body)
    (given : value.isAbsent = false) (takes : catalogue.TakesAlone spec key id value) :
    namesOf (catalogue.specClass spec).body id = [key] ∧ key ≠ receiverName ∧
      (catalogue.specClass spec).body.lookup itemsName = none := by
  obtain ⟨filter, made, _, others, compiled⟩ := takes
  have apart : key ≠ receiverName := by
    rintro rfl
    rw [instantiate_receiver] at made
    cases made
  have answers : key = (catalogue.field id).name := by
    by_contra otherName
    rw [direct.instantiate_other_name bound apart otherName] at made
    cases made
  obtain rfl := Except.ok.inj ((direct.instantiate_name bound apart answers value).symm.trans made)
  refine ⟨?alone, apart, ?visible⟩
  case alone =>
    -- Another attribute of the object would read the value, and the value is not the empty text.
    have each : ∀ name ∈ namesOf (catalogue.specClass spec).body id, name = key := by
      intro name named
      by_contra different
      have otherBound := mem_namesOf.mp named
      have empty := others name id otherBound different
      rw [direct.get_bound bound answers otherBound, if_pos rfl] at empty
      rw [Except.ok.inj empty] at given
      cases given
    have nodup := nodup_namesOf direct.distinct id
    have named (name : String) : name ∈ namesOf (catalogue.specClass spec).body id ↔ name ∈ [key] := by
      rw [List.mem_singleton]
      exact ⟨each name, fun same => same ▸ mem_namesOf.mpr bound⟩
    exact List.perm_singleton.mp ((List.perm_ext_iff_of_nodup nodup (List.nodup_singleton key)).mpr named)
  case visible =>
    by_contra hides
    have hides := Option.ne_none_iff_isSome.mp hides
    obtain ⟨hidden, _, refused⟩ := direct.compileFilter_hidden hides [(key, value)]
    rw [refused] at compiled
    cases compiled

end Direct

end Catalogue

namespace SpecSession

theorem root_of_run (steps : List SpecStep) :
    (run steps).catalogue.specClass 0 = ⟨Catalogue.rootName, [], [0], []⟩ :=
  Catalogue.specClass_of_extends (classes_prefix_foldl steps initial) Nat.zero_lt_one

/-- In a class that was just defined directly over the root class, a field object answers to the last
attribute that is bound to it. A value that its condition accepts is taken under that name only; every
attribute of the object reads the value, all other fields are empty, and the clause of the field is given
once for each attribute of the object. An attribute that hides the items of filters lets none be compiled,
and the name of the receiver is taken under no circumstances. So a value that restricts anything is taken
alone exactly if the object has the one attribute, which is not named like the receiver, and the items are
not hidden. -/
theorem values_are_taken_under_last_names (steps : List SpecStep) {definition : Definition}
    {after : Catalogue} (defined : (run steps).catalogue.define definition = .ok after)
    (direct : definition.bases = [Catalogue.rootName])
    (root : (run steps).catalogue.find? Catalogue.rootName = some 0) :
    let spec := (run steps).catalogue.classes.length
    let body := (after.specClass spec).body
    ∀ key id value, (key, .field id) ∈ body → (after.field id).Accepts value →
      (Catalogue.namesOf body id).getLast? = some (after.field id).name ∧
      (key = Catalogue.receiverName → after.instantiate spec [(key, value)] =
        .error (.repeatedArgument (Catalogue.rootName ++ ".__init__") key)) ∧
      (key ≠ Catalogue.receiverName → key ≠ (after.field id).name →
        after.instantiate spec [(key, value)] = .error (.unexpectedField definition.name key)) ∧
      (key ≠ Catalogue.receiverName → key = (after.field id).name →
        after.instantiate spec [(key, value)] = .ok ⟨spec, [(key, value)]⟩ ∧
        (∀ otherKey other, (otherKey, .field other) ∈ body →
          after.get ⟨spec, [(key, value)]⟩ otherKey = .ok (if other = id then value else .empty)) ∧
        (body.lookup Catalogue.itemsName = none →
          compileFilter after (some ⟨spec, [(key, value)]⟩) =
            .ok ((Catalogue.namesOf body id).flatMap fun _ => ((after.field id).clause? value).toList)) ∧
        ((body.lookup Catalogue.itemsName).isSome → ∃ hidden,
          after.get ⟨spec, [(key, value)]⟩ Catalogue.itemsName = .ok hidden ∧
          compileFilter after (some ⟨spec, [(key, value)]⟩) = .error (.notCallable hidden.typeName))) ∧
      (Catalogue.namesOf body id = [key] → key ≠ Catalogue.receiverName →
        body.lookup Catalogue.itemsName = none → after.TakesAlone spec key id value) ∧
      (value.isAbsent = false → after.TakesAlone spec key id value →
        Catalogue.namesOf body id = [key] ∧ key ≠ Catalogue.receiverName ∧
          body.lookup Catalogue.itemsName = none) := by
  intro spec body key id value bound accepts
  have sound := (orderly_run steps).sound
  obtain ⟨made, adds⟩ := sound.adds_of_define defined
  have rootClass : after.specClass 0 = ⟨Catalogue.rootName, [], [0], []⟩ := by
    rw [adds.specClass_of_lt (Catalogue.lt_of_find? root), root_of_run]
  have order := (ordered_run steps).order_of_single defined direct root
  rw [root_of_run] at order
  have name : (after.specClass spec).name = definition.name := by
    obtain ⟨_, _, classes⟩ := adds.classes
    rw [Catalogue.specClass, classes, List.getElem?_concat_length, Option.getD_some]
  have own : after.Direct spec := sound.direct_of_adds adds order (congrArg SpecClass.body rootClass)
  refine ⟨own.lastName bound, ?receiver, fun apart otherName => ?refused,
    fun apart answers => ⟨own.instantiate_name bound apart answers value,
      fun otherKey other otherBound => own.get_bound bound answers otherBound value,
      own.compileFilter_eq bound answers accepts, fun hides => own.compileFilter_hidden hides _⟩,
    fun alone apart visible => own.takesAlone bound alone apart visible accepts, own.of_takesAlone bound⟩
  case receiver =>
    rintro rfl
    exact after.instantiate_receiver spec value
  case refused =>
    rw [own.instantiate_other_name bound apart otherName, name]

def grownUps : Definition :=
  ⟨"AdultFilter", [Catalogue.rootName],
    [("name", .field none (some (.text "LIKE"))), ("limit", .plain (.integer 5)),
      ("age", .field (some "years") none)], by decide⟩

theorem ages_of_grown_ups_are_taken_alone : ∃ after, (run []).catalogue.define grownUps = .ok after ∧
    after.TakesAlone 1 "age" 1 (.integer 36) := by
  have defined : (run []).catalogue.define grownUps = .ok _ := rfl
  obtain ⟨_, _, _, _, takes, _⟩ := values_are_taken_under_last_names [] defined rfl rfl "age" 1 (.integer 36)
    (mem_of_lookup rfl) fun _ => rfl
  exact ⟨_, defined, takes rfl (by decide) rfl⟩

/-- A class that binds one field object to two attributes, one that calls a field like the items of its
filters, and one that calls a field like the receiver. -/
def twiceBound : Definition :=
  ⟨"TwiceFilter", [Catalogue.rootName], [("first", .field none none), ("second", .sameAs "first")], by decide⟩

def hidingItems : Definition :=
  ⟨"BasketFilter", [Catalogue.rootName], [("items", .field none none)], by decide⟩

def namedReceiver : Definition :=
  ⟨"SelfFilter", [Catalogue.rootName], [("self", .field none none)], by decide⟩

/-- None of the three takes a number for a field alone. Two attributes of one object give its clause twice,
and only the second is a name for it. -/
theorem some_fields_do_not_take_a_value_alone :
    (∃ after, (run []).catalogue.define twiceBound = .ok after ∧
      ("first", .field 0) ∈ (after.specClass 1).body ∧ (after.field 0).Accepts (.integer 1) ∧
      after.instantiate 1 [("first", .integer 1)] = .error (.unexpectedField "TwiceFilter" "first") ∧
      compileFilter after (some ⟨1, [("second", .integer 1)]⟩) =
        .ok [⟨"first", .known .equality, [.integer 1]⟩, ⟨"first", .known .equality, [.integer 1]⟩] ∧
      ¬ after.TakesAlone 1 "first" 0 (.integer 1)) ∧
    (∃ after, (run []).catalogue.define hidingItems = .ok after ∧
      compileFilter after (some ⟨1, [("items", .integer 1)]⟩) = .error (.notCallable "int") ∧
      ¬ after.TakesAlone 1 "items" 0 (.integer 1)) ∧
    ∃ after, (run []).catalogue.define namedReceiver = .ok after ∧
      after.instantiate 1 [("self", .integer 1)] =
        .error (.repeatedArgument "FilterSpec.__init__" "self") ∧
      ¬ after.TakesAlone 1 "self" 0 (.integer 1) := by
  refine ⟨⟨_, rfl, mem_of_lookup rfl, fun _ => rfl, rfl, rfl, ?_⟩, ⟨_, rfl, rfl, ?_⟩, _, rfl, rfl, ?_⟩
  · rintro ⟨filter, made, _⟩
    cases made
  · rintro ⟨filter, made, _, _, compiled⟩
    cases made
    cases compiled
  · rintro ⟨filter, made, _⟩
    cases made

end SpecSession

end RecordStore
