import RecordStore.Proofs.SharedFields

/-!
Resolution orders as definitions build them. A class stands first in its own order, before earlier classes
and each of them once; over a single base, the order goes on with the order of the base.
-/

namespace RecordStore

namespace Linearization

variable {lists : List (List Nat)} {chosen : Nat}

theorem not_mem_of_mem_dropHead (free : isFree lists chosen = true) {list : List Nat}
    (kept : list ∈ dropHead chosen lists) : chosen ∉ list := by
  obtain ⟨whole, among, rfl⟩ := List.mem_map.mp kept
  have behind : chosen ∉ whole.drop 1 := by simpa using List.all_eq_true.mp free whole among
  cases whole with
  | nil => exact List.not_mem_nil
  | cons head tail =>
      by_cases same : head = chosen
      · simpa [same] using behind
      · simpa [same, Ne.symm same] using behind

theorem nodup_of_merge {steps : Nat} {merged : List Nat} (merges : merge lists steps = .ok merged) :
    merged.Nodup := by
  induction steps generalizing lists merged with
  | zero =>
      obtain rfl := Except.ok.inj merges
      exact List.nodup_nil
  | succ steps ih =>
      rw [merge] at merges
      split at merges
      · obtain rfl := Except.ok.inj merges
        exact List.nodup_nil
      · split at merges
        · cases merges
        · rename_i chosen isNext
          obtain ⟨rest, mergesRest, rfl⟩ := map_eq_ok_iff.mp merges
          refine List.nodup_cons.mpr ⟨fun again => ?_, ih mergesRest⟩
          obtain ⟨list, kept, inside⟩ := exists_mem_of_mem_merge mergesRest again
          have free := List.find?_some isNext
          exact not_mem_of_mem_dropHead free kept inside

theorem merge_succ (isNext : nextHead? lists = some chosen) (steps : Nat) :
    merge lists (steps + 1) = (merge (dropHead chosen lists) steps).map (chosen :: ·) := by
  obtain ⟨list, among, isHead⟩ := List.mem_filterMap.mp (List.mem_of_find?_eq_some isNext)
  have unfinished : lists.all List.isEmpty = false := by
    refine List.all_eq_false.mpr ⟨list, among, ?_⟩
    cases list with
    | nil => cases isHead
    | cons head tail => simp
  simp only [merge, unfinished, isNext, Bool.false_eq_true, if_false]

theorem merge_alone {list : List Nat} (nodup : list.Nodup) {steps : Nat} (enough : list.length ≤ steps) :
    merge [list, []] steps = .ok list := by
  induction list generalizing steps with
  | nil => cases steps <;> rfl
  | cons head tail ih =>
      obtain ⟨apart, nodupTail⟩ := List.nodup_cons.mp nodup
      cases steps with
      | zero => simp at enough
      | succ steps =>
          have isNext : nextHead? [head :: tail, []] = some head := by
            simp [nextHead?, isFree, apart]
          have dropped : dropHead head [head :: tail, []] = [tail, []] := by simp [dropHead]
          rw [merge_succ isNext, dropped, ih nodupTail (Nat.le_of_succ_le_succ enough)]
          rfl

theorem ofBases_single {base self : Nat} {further : List Nat} (nodup : (base :: further).Nodup) :
    ofBases self [base] [base :: further] = .ok (self :: base :: further) := by
  obtain ⟨apart, nodupFurther⟩ := List.nodup_cons.mp nodup
  have isNext : nextHead? [base :: further, [base]] = some base := by
    simp [nextHead?, isFree, apart]
  have dropped : dropHead base [base :: further, [base]] = [further, []] := by simp [dropHead]
  have enough : further.length ≤ [base :: further, [base]].flatten.length := by simp; omega
  rw [ofBases, List.singleton_append, merge_succ isNext, dropped, merge_alone nodupFurther enough]
  rfl

end Linearization

namespace Catalogue

variable {before after : Catalogue} {definition : Definition} {spec : Nat}

theorem define_class (defined : before.define definition = .ok after) : ∃ body bases order,
    List.Forall₂ (fun name base => before.find? name = some base) definition.bases bases ∧
    Linearization.ofBases before.classes.length bases
      (bases.map fun base => (before.specClass base).order) = .ok order ∧
    after.classes = before.classes ++ [⟨definition.name, body, order,
      collect (body :: (order.drop 1).map fun id => (before.specClass id).body)⟩] := by
  obtain ⟨made, body, bases, order, evaluates, named, _, merges, rfl⟩ := define_ok defined
  have evaluated : before.Evaluated true made body :=
    (Evaluated.start before true).run (fun _ _ _ => rfl) evaluates
  have same : made.specClass = before.specClass := by
    funext id
    rw [specClass, specClass, evaluated.classes]
  have finds : made.find? = before.find? := by
    funext name
    rw [find?, find?, evaluated.classes]
  rw [evaluated.classes, same] at merges
  refine ⟨body, bases, order, finds ▸ named, merges, ?_⟩
  rw [evaluated.classes, same]

theorem specClass_of_extends (goesOn : before.classes <+: after.classes)
    (earlier : spec < before.classes.length) : after.specClass spec = before.specClass spec := by
  obtain ⟨more, grown⟩ := goesOn
  rw [specClass, specClass, ← grown, List.getElem?_append_left earlier]

theorem classes_prefix_of_define (defined : before.define definition = .ok after) :
    before.classes <+: after.classes := by
  obtain ⟨_, _, _, _, _, classes⟩ := define_class defined
  exact classes ▸ List.prefix_append ..

/-- Whether every class stands before classes that are earlier than it, each of them once. -/
def Ordered (catalogue : Catalogue) : Prop :=
  ∀ spec < catalogue.classes.length, ∃ further, (catalogue.specClass spec).order = spec :: further ∧
    further.Nodup ∧ ∀ id ∈ further, id < spec

theorem ordered_initial : initial.Ordered := by
  intro spec earlier
  obtain rfl : spec = 0 := Nat.lt_one_iff.mp earlier
  exact ⟨[], rfl, List.nodup_nil, fun id among => (List.not_mem_nil among).elim⟩

theorem Ordered.nodup (ordered : before.Ordered) (earlier : spec < before.classes.length) :
    (before.specClass spec).order.Nodup := by
  obtain ⟨further, order, nodup, behind⟩ := ordered spec earlier
  rw [order]
  exact List.nodup_cons.mpr ⟨fun again => Nat.lt_irrefl _ (behind spec again), nodup⟩

theorem Ordered.define (sound : before.Sound) (ordered : before.Ordered)
    (defined : before.define definition = .ok after) : after.Ordered := by
  obtain ⟨body, bases, order, named, merges, classes⟩ := define_class defined
  intro spec earlier
  rw [classes, List.length_append] at earlier
  rcases Nat.lt_or_eq_of_le (Nat.le_of_lt_succ earlier) with old | rfl
  · rw [specClass_of_extends (classes_prefix_of_define defined) old]
    exact ordered spec old
  · obtain ⟨further, merged, rfl⟩ := map_eq_ok_iff.mp merges
    refine ⟨further, ?_, Linearization.nodup_of_merge merged, fun id listed => ?_⟩
    · rw [specClass, classes, List.getElem?_concat_length, Option.getD_some]
    · have known : ∀ base ∈ bases, base < before.classes.length := by
        intro base among
        obtain ⟨name, _, found⟩ := exists_mem_of_forall₂ named.flip among
        exact lt_of_find? found
      obtain ⟨list, among, inside⟩ := Linearization.exists_mem_of_mem_merge merged listed
      rcases List.mem_append.mp among with ofBase | direct
      · obtain ⟨base, direct, rfl⟩ := List.mem_map.mp ofBase
        exact sound.lt_of_mem_order (known base direct) inside
      · obtain rfl := List.mem_singleton.mp direct
        exact known id inside

theorem Ordered.order_of_single (ordered : before.Ordered) {name : String} {base : Nat}
    (defined : before.define definition = .ok after) (single : definition.bases = [name])
    (found : before.find? name = some base) :
    (after.specClass before.classes.length).order =
      before.classes.length :: (before.specClass base).order := by
  obtain ⟨body, bases, order, named, merges, classes⟩ := define_class defined
  rw [single, List.forall₂_cons_left_iff] at named
  obtain ⟨other, none, same, noMore, rfl⟩ := named
  obtain rfl := List.forall₂_nil_left_iff.mp noMore
  obtain rfl : base = other := Option.some.inj (found.symm.trans same)
  have known := lt_of_find? found
  obtain ⟨further, orderBase, _⟩ := ordered base known
  have nodup := ordered.nodup known
  rw [orderBase] at nodup
  rw [List.map_singleton, orderBase, Linearization.ofBases_single nodup] at merges
  rw [specClass, classes, List.getElem?_concat_length, Option.getD_some, orderBase,
    Except.ok.inj merges]

end Catalogue

namespace SpecSession

theorem catalogue_of_run {Holds : Catalogue → Prop} (start : Holds .initial)
    (keeps : ∀ {before after : Catalogue} {definition : Definition}, before.Sound →
      before.define definition = .ok after → Holds before → Holds after) (steps : List SpecStep) :
    Holds (run steps).catalogue := by
  suffices ∀ session : SpecSession, session.Orderly → Holds session.catalogue →
      Holds (steps.foldl perform session).catalogue from
    this initial (orderly_run []) start
  induction steps with
  | nil => exact fun session _ holds => holds
  | cons step steps ih =>
      intro session orderly holds
      refine ih _ (orderly.perform step) ?_
      cases step with
      | define definition =>
          simp only [perform]
          split
          · exact keeps orderly.sound ‹_› holds
          · exact holds
      | create spec values =>
          simp only [perform]
          split
          · split <;> exact holds
          · exact holds
      | set number key value => exact holds

theorem ordered_run (steps : List SpecStep) : (run steps).catalogue.Ordered :=
  catalogue_of_run Catalogue.ordered_initial (fun sound defined ordered => ordered.define sound defined) steps

theorem classes_prefix_foldl (steps : List SpecStep) (session : SpecSession) :
    session.catalogue.classes <+: (steps.foldl perform session).catalogue.classes := by
  induction steps generalizing session with
  | nil => exact List.prefix_rfl
  | cons step steps ih =>
      refine List.IsPrefix.trans ?_ (ih (session.perform step))
      cases step with
      | define definition =>
          simp only [perform]
          split
          · exact Catalogue.classes_prefix_of_define ‹_›
          · exact List.prefix_rfl
      | create spec values =>
          simp only [perform]
          split
          · split <;> exact List.prefix_rfl
          · exact List.prefix_rfl
      | set number key value => exact List.prefix_rfl

theorem classes_prefix_of_split {earlier later : List SpecStep} {definition : Definition} {after : Catalogue}
    (defined : (run earlier).catalogue.define definition = .ok after) :
    after.classes <+: (run (earlier ++ .define definition :: later)).catalogue.classes := by
  have performed : ((run earlier).perform (.define definition)).catalogue = after := by
    simp only [perform, defined]
  rw [run, List.foldl_append, List.foldl_cons, ← performed]
  exact classes_prefix_foldl later _

end SpecSession

end RecordStore
