import RecordStore.Proofs.BoundFields
import RecordStore.Proofs.Outcome

/-!
Catalogues as definitions build them. A class refers to earlier classes only, and every field object that its
body binds is in the catalogue and has a column; defining one more class keeps this.
-/

namespace RecordStore

namespace Linearization

theorem exists_mem_of_mem_merge {lists : List (List Nat)} {steps : Nat} {merged : List Nat}
    (merges : merge lists steps = .ok merged) {id : Nat} (listed : id ∈ merged) :
    ∃ list ∈ lists, id ∈ list := by
  induction steps generalizing lists merged with
  | zero =>
      obtain rfl := Except.ok.inj merges
      cases listed
  | succ steps ih =>
      rw [merge] at merges
      split at merges
      · obtain rfl := Except.ok.inj merges
        cases listed
      · split at merges
        · cases merges
        · rename_i chosen isNext
          obtain ⟨rest, mergesRest, rfl⟩ := map_eq_ok_iff.mp merges
          rcases List.mem_cons.mp listed with rfl | later
          · obtain ⟨list, among, isHead⟩ := List.mem_filterMap.mp (List.mem_of_find?_eq_some isNext)
            exact ⟨list, among, List.mem_of_head? isHead⟩
          · obtain ⟨_, kept, inside⟩ := ih mergesRest later
            obtain ⟨list, among, rfl⟩ := List.mem_map.mp kept
            refine ⟨list, among, ?_⟩
            split at inside
            · exact List.mem_of_mem_drop inside
            · exact inside

end Linearization

def Declaration.isShared : Declaration → Bool
  | sharedWith _ _ => true
  | _ => false

namespace Catalogue

variable {before after : Catalogue}

theorem lt_of_find? {name : String} {spec : Nat} (found : before.find? name = some spec) :
    spec < before.classes.length :=
  List.mem_range.mp (List.mem_reverse.mp (List.mem_of_find?_eq_some found))

theorem specClass_of_lt {spec : Nat} (earlier : spec < before.classes.length) :
    before.specClass spec = before.classes[spec] := by
  rw [specClass, List.getElem?_eq_getElem earlier, Option.getD_some]

theorem specClass_mem {spec : Nat} (earlier : spec < before.classes.length) :
    before.specClass spec ∈ before.classes := by
  rw [specClass_of_lt earlier]
  exact List.getElem_mem earlier

theorem member?_eq (catalogue : Catalogue) (spec : Nat) (key : String) : catalogue.member? spec key =
    (((catalogue.specClass spec).order.map fun id => (catalogue.specClass id).body).findSome? fun body =>
      body.lookup key) := by
  rw [List.findSome?_map]
  rfl

inductive Makes (catalogue : Catalogue) (members : List (String × Member)) :
    Declaration → Catalogue → Member → Prop
  | field (column : Option String) {kind : Option Value} {means : Condition}
      (known : condition kind = .ok means) :
      Makes catalogue members (.field column kind)
        ⟨catalogue.fields ++ [⟨"", column, means⟩], catalogue.classes⟩ (.field catalogue.fields.length)
  | sameAs {key : String} {member : Member} (bound : members.lookup key = some member) :
      Makes catalogue members (.sameAs key) catalogue member
  | sharedWith {name key : String} {spec : Nat} {member : Member}
      (named : catalogue.find? name = some spec)
      (bound : (catalogue.specClass spec).body.lookup key = some member) :
      Makes catalogue members (.sharedWith name key) catalogue member
  | plain (value : Value) : Makes catalogue members (.plain value) catalogue (.plain value)

theorem evaluate_cons_ok {catalogue : Catalogue} {members : List (String × Member)} {key : String}
    {declaration : Declaration} {rest : List (String × Declaration)}
    {result : Catalogue × List (String × Member)}
    (evaluates : evaluate catalogue members ((key, declaration) :: rest) = .ok result) :
    ∃ next member, Makes catalogue members declaration next member ∧
      evaluate next (assign key member members) rest = .ok result := by
  cases declaration with
  | field column kind =>
      rw [evaluate] at evaluates
      obtain ⟨means, known, evaluatesRest⟩ := bind_eq_ok_iff.mp evaluates
      exact ⟨_, _, .field column known, evaluatesRest⟩
  | sameAs other =>
      rw [evaluate] at evaluates
      split at evaluates
      · exact ⟨_, _, .sameAs ‹_›, evaluates⟩
      · cases evaluates
  | sharedWith spec other =>
      rw [evaluate] at evaluates
      split at evaluates
      · rename_i found
        obtain ⟨id, named, bound⟩ := Option.bind_eq_some_iff.mp found
        exact ⟨_, _, .sharedWith named bound, evaluates⟩
      · cases evaluates
  | plain value =>
      rw [evaluate] at evaluates
      exact ⟨_, _, .plain value, evaluates⟩

/-- Where a member of a body comes from: it is a plain value, a new field object or, with sharing, what an
earlier class binds. -/
inductive Origin (before : Catalogue) (sharing : Bool) (count : Nat) : Member → Prop
  | plain (value : Value) : Origin before sharing count (.plain value)
  | made {id : Nat} (isNew : before.fields.length ≤ id) (known : id < count) :
      Origin before sharing count (.field id)
  | shared {spec : SpecClass} {key : String} {member : Member} (shares : sharing = true)
      (earlier : spec ∈ before.classes) (bound : (key, member) ∈ spec.body) :
      Origin before sharing count member

theorem Origin.mono {sharing : Bool} {count more : Nat} {member : Member} (grows : count ≤ more)
    (origin : before.Origin sharing count member) : before.Origin sharing more member := by
  cases origin with
  | plain value => exact .plain value
  | made isNew known => exact .made isNew (Nat.lt_of_lt_of_le known grows)
  | shared shares earlier bound => exact .shared shares earlier bound

structure Evaluated (before : Catalogue) (sharing : Bool) (after : Catalogue)
    (members : List (String × Member)) : Prop where
  classes : after.classes = before.classes
  fields : before.fields <+: after.fields
  distinct : Distinct members
  origin : ∀ entry ∈ members, before.Origin sharing after.fields.length entry.2

theorem Evaluated.start (before : Catalogue) (sharing : Bool) : before.Evaluated sharing before [] :=
  ⟨rfl, List.prefix_rfl, List.nodup_nil, fun _ listed => (List.not_mem_nil listed).elim⟩

theorem Makes.evaluated {sharing : Bool} {catalogue next : Catalogue} {members : List (String × Member)}
    {declaration : Declaration} {member : Member} (makes : catalogue.Makes members declaration next member)
    (evaluated : before.Evaluated sharing catalogue members)
    (shares : declaration.isShared = true → sharing = true) (key : String) :
    before.Evaluated sharing next (assign key member members) := by
  have grown : catalogue.classes = next.classes ∧ catalogue.fields <+: next.fields := by
    cases makes with
    | field column known => exact ⟨rfl, List.prefix_append _ _⟩
    | _ => exact ⟨rfl, List.prefix_rfl⟩
  have origin : before.Origin sharing next.fields.length member := by
    cases makes with
    | field column known => exact .made evaluated.fields.length_le (by simp)
    | sameAs bound => exact evaluated.origin _ (mem_of_lookup bound)
    | sharedWith named bound =>
        have earlier := specClass_mem (lt_of_find? named)
        rw [evaluated.classes] at earlier
        exact .shared (shares rfl) earlier (mem_of_lookup bound)
    | plain value => exact .plain value
  refine ⟨grown.1 ▸ evaluated.classes, evaluated.fields.trans grown.2,
    distinct_assign key member evaluated.distinct, fun entry listed => ?_⟩
  rcases mem_assign listed with rfl | old
  · exact origin
  · exact (evaluated.origin entry old).mono grown.2.length_le

theorem Evaluated.run {sharing : Bool} {catalogue : Catalogue} {members made : List (String × Member)}
    {body : List (String × Declaration)} (evaluated : before.Evaluated sharing catalogue members)
    (shares : ∀ entry ∈ body, entry.2.isShared = true → sharing = true)
    (evaluates : evaluate catalogue members body = .ok (after, made)) :
    before.Evaluated sharing after made := by
  induction body generalizing catalogue members with
  | nil =>
      cases evaluates
      exact evaluated
  | cons entry body ih =>
      obtain ⟨first, rest⟩ := List.forall_mem_cons.mp shares
      obtain ⟨next, member, makes, evaluatesRest⟩ := evaluate_cons_ok evaluates
      exact ih (makes.evaluated evaluated first entry.1) rest evaluatesRest

theorem define_ok {definition : Definition} (defined : before.define definition = .ok after) :
    ∃ made body bases order, before.evaluate [] definition.body = .ok (made, body) ∧
      List.Forall₂ (fun base id => made.find? base = some id) definition.bases bases ∧
      repeated? definition.bases = none ∧
      Linearization.ofBases made.classes.length bases (bases.map fun base => (made.specClass base).order) =
        .ok order ∧
      after = ⟨bindNames made.fields body, made.classes ++ [⟨definition.name, body, order,
        collect (body :: (order.drop 1).map fun id => (made.specClass id).body)⟩]⟩ := by
  rw [define] at defined
  obtain ⟨⟨made, body⟩, evaluates, defined⟩ := bind_eq_ok_iff.mp defined
  obtain ⟨bases, named, defined⟩ := bind_eq_ok_iff.mp defined
  refine ⟨made, body, bases, ?_⟩
  split at defined
  · cases defined
  · dsimp only at defined
    split at defined
    · cases defined
      refine ⟨_, evaluates, (mapM_eq_ok_iff.mp named).imp fun base id found => ?_, ‹_›, ‹_›, rfl⟩
      split at found
      · obtain rfl := Except.ok.inj found
        assumption
      · cases found
    · cases defined

structure Placed (catalogue : Catalogue) (id : Nat) : Prop where
  known : id < catalogue.fields.length
  column : (catalogue.field id).column.isSome

/-- A class as definitions leave it: what its body binds has a column, and what it declares is what the
bodies along its order, all of them of the catalogue, bind. -/
structure SoundClass (catalogue : Catalogue) (spec : SpecClass) : Prop where
  distinct : Distinct spec.body
  placed : ∀ key id, (key, .field id) ∈ spec.body → catalogue.Placed id
  earlier : ∀ id ∈ spec.order, id < catalogue.classes.length
  declared : spec.declared = collect (spec.order.map fun id => (catalogue.specClass id).body)

def Sound (catalogue : Catalogue) : Prop := ∀ spec ∈ catalogue.classes, catalogue.SoundClass spec

theorem sound_initial : initial.Sound := by
  intro spec listed
  obtain rfl := List.mem_singleton.mp listed
  refine ⟨List.nodup_nil, fun key id bound => (List.not_mem_nil bound).elim, fun id among => ?_, rfl⟩
  obtain rfl := List.mem_singleton.mp among
  exact Nat.zero_lt_one

/-- What a definition adds to a sound catalogue: new field objects, and a class whose order goes on with
earlier classes. Its body binds field objects to names. -/
structure Adds (before : Catalogue) (definition : Definition) (after : Catalogue)
    (body : List (String × Member)) : Prop where
  fields : ∃ made, before.Evaluated (definition.body.any fun entry => entry.2.isShared) made body ∧
    after.fields = bindNames made.fields body
  classes : ∃ order, (∀ id ∈ order, id < before.classes.length) ∧
    after.classes = before.classes ++ [⟨definition.name, body, before.classes.length :: order,
      collect (body :: order.map fun id => (before.specClass id).body)⟩]

section Sound

variable {spec id : Nat} (sound : before.Sound) (earlier : spec < before.classes.length)
include sound earlier

theorem Sound.lt_of_mem_order (among : id ∈ (before.specClass spec).order) : id < before.classes.length :=
  (sound _ (specClass_mem earlier)).earlier id among

theorem Sound.distinct_bodies :
    ∀ body ∈ (before.specClass spec).order.map fun id => (before.specClass id).body, Distinct body := by
  intro body among
  obtain ⟨other, listed, rfl⟩ := List.mem_map.mp among
  exact (sound _ (specClass_mem (sound.lt_of_mem_order earlier listed))).distinct

theorem Sound.placed_of_mem_declared (declared : id ∈ (before.specClass spec).declared) :
    before.Placed id := by
  rw [(sound _ (specClass_mem earlier)).declared] at declared
  obtain ⟨body, among, key, bound⟩ := exists_mem_of_mem_collect declared
  obtain ⟨other, listed, rfl⟩ := List.mem_map.mp among
  exact (sound _ (specClass_mem (sound.lt_of_mem_order earlier listed))).placed key id bound

theorem Sound.mem_declared_of_member? {key : String} (found : before.member? spec key = some (.field id)) :
    id ∈ (before.specClass spec).declared := by
  rw [member?_eq] at found
  rw [(sound _ (specClass_mem earlier)).declared]
  exact mem_collect_of_findSome? (sound.distinct_bodies earlier) found

end Sound

theorem Sound.adds_of_define {definition : Definition} (sound : before.Sound)
    (defined : before.define definition = .ok after) : ∃ body, before.Adds definition after body := by
  obtain ⟨made, body, bases, order, evaluates, named, _, merges, rfl⟩ := define_ok defined
  have evaluated : before.Evaluated (definition.body.any fun entry => entry.2.isShared) made body :=
    (Evaluated.start before _).run
      (fun entry listed shared => List.any_eq_true.mpr ⟨entry, listed, shared⟩) evaluates
  have same (id : Nat) : made.specClass id = before.specClass id := by
    rw [specClass, specClass, evaluated.classes]
  simp only [evaluated.classes, same] at named merges ⊢
  have earlierBases : ∀ base ∈ bases, base < before.classes.length := by
    intro base among
    obtain ⟨name, _, found⟩ := exists_mem_of_forall₂ named.flip among
    rw [← evaluated.classes]
    exact lt_of_find? found
  obtain ⟨rest, merged, rfl⟩ := map_eq_ok_iff.mp merges
  refine ⟨body, ⟨made, evaluated, rfl⟩, rest, fun id listed => ?_, rfl⟩
  obtain ⟨list, among, inside⟩ := Linearization.exists_mem_of_mem_merge merged listed
  rcases List.mem_append.mp among with ofBase | direct
  · obtain ⟨base, direct, rfl⟩ := List.mem_map.mp ofBase
    exact sound.lt_of_mem_order (earlierBases base direct) inside
  · obtain rfl := List.mem_singleton.mp direct
    exact earlierBases id inside

theorem field_of_bindNames {made : Catalogue} {body : List (String × Member)}
    (fields : after.fields = bindNames made.fields body) {id : Nat} (known : id < made.fields.length) :
    after.field id = (made.field id).boundTo (namesOf body id) := by
  rw [field, field, fields, getElem?_bindNames, List.getElem?_eq_getElem known, Option.map_some,
    Option.getD_some, Option.getD_some]

section Adds

variable {definition : Definition} {body : List (String × Member)} (adds : before.Adds definition after body)
include adds

theorem Adds.lt_of_lt {id : Nat} (earlier : id < before.classes.length) : id < after.classes.length := by
  obtain ⟨order, _, classes⟩ := adds.classes
  rw [classes, List.length_append]
  exact Nat.lt_add_right _ earlier

theorem Adds.specClass_of_lt {spec : Nat} (earlier : spec < before.classes.length) :
    after.specClass spec = before.specClass spec := by
  obtain ⟨order, _, classes⟩ := adds.classes
  rw [specClass, specClass, classes, List.getElem?_append_left earlier]

theorem Adds.bodies_of_lt {order : List Nat} (earlier : ∀ id ∈ order, id < before.classes.length) :
    (order.map fun id => (after.specClass id).body) = order.map fun id => (before.specClass id).body :=
  List.map_congr_left fun id among => by rw [adds.specClass_of_lt (earlier id among)]

theorem Adds.body_eq : (after.specClass before.classes.length).body = body := by
  obtain ⟨order, _, classes⟩ := adds.classes
  rw [specClass, classes, List.getElem?_concat_length, Option.getD_some]

theorem Adds.length_le : before.fields.length ≤ after.fields.length := by
  obtain ⟨made, evaluated, fields⟩ := adds.fields
  rw [fields, length_bindNames]
  exact evaluated.fields.length_le

theorem Adds.field_of_lt {id : Nat} (known : id < before.fields.length) :
    after.field id = (before.field id).boundTo (namesOf body id) := by
  obtain ⟨made, evaluated, fields⟩ := adds.fields
  have kept : made.field id = before.field id := by
    obtain ⟨more, grown⟩ := evaluated.fields
    rw [field, field, ← grown, List.getElem?_append_left known]
  rw [field_of_bindNames fields (Nat.lt_of_lt_of_le known evaluated.fields.length_le), kept]

theorem Adds.placed_of_placed {id : Nat} (placed : before.Placed id) : after.Placed id := by
  refine ⟨Nat.lt_of_lt_of_le placed.known adds.length_le, ?_⟩
  rw [adds.field_of_lt placed.known, Field.boundTo_of_column _ placed.column]
  exact placed.column

theorem Adds.placed_of_bound (sound : before.Sound) {key : String} {id : Nat}
    (bound : (key, .field id) ∈ body) : after.Placed id := by
  obtain ⟨made, evaluated, fields⟩ := adds.fields
  have origin : before.Origin _ _ (.field id) := evaluated.origin _ bound
  cases origin with
  | made isNew known =>
      refine ⟨by rwa [fields, length_bindNames], ?_⟩
      rw [field_of_bindNames fields known, Field.column_boundTo, Option.isSome_or, Bool.or_eq_true]
      exact .inr (List.isSome_head?.mpr (namesOf_ne_nil bound))
  | shared shares among found => exact adds.placed_of_placed ((sound _ among).placed _ id found)

theorem Adds.sound (sound : before.Sound) : after.Sound := by
  obtain ⟨order, earlier, classes⟩ := adds.classes
  obtain ⟨_, evaluated, _⟩ := adds.fields
  intro spec listed
  rw [classes] at listed
  rcases List.mem_append.mp listed with old | new
  · have kept := sound spec old
    exact ⟨kept.distinct, fun key id bound => adds.placed_of_placed (kept.placed key id bound),
      fun id among => adds.lt_of_lt (kept.earlier id among),
      kept.declared.trans (congrArg collect (adds.bodies_of_lt kept.earlier).symm)⟩
  · obtain rfl := List.mem_singleton.mp new
    refine ⟨evaluated.distinct, fun key id bound => adds.placed_of_bound sound bound, fun id among => ?_, ?_⟩
    · rcases List.mem_cons.mp among with rfl | later
      · rw [classes, List.length_append]
        exact Nat.lt_add_one _
      · exact adds.lt_of_lt (earlier id later)
    · rw [List.map_cons, adds.body_eq, adds.bodies_of_lt earlier]

end Adds

end Catalogue

end RecordStore
