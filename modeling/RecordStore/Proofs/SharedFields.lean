import RecordStore.Filter.Compile
import RecordStore.Proofs.Catalogues

/-!
What the definition of a class does to the classes and filters before it. The field objects that its body
takes over answer to the names it gives them, for every class that declares them; nothing else of an earlier
class changes.
-/

namespace RecordStore

namespace Catalogue

variable {before after : Catalogue} {spec : Nat}

@[simp] theorem spec_set (catalogue : Catalogue) (filter : Filter) (key : String) (value : Value) :
    (catalogue.set filter key value).spec = filter.spec := by
  rw [set]
  split <;> rfl

theorem instantiate_ok_iff {values : List (String × Value)} {filter : Filter} :
    before.instantiate spec values = .ok filter ↔
      values.lookup receiverName = none ∧ before.setAll spec values = .ok filter := by
  rw [instantiate]
  cases values.lookup receiverName with
  | none => simp
  | some value => simp

theorem spec_of_instantiate {values : List (String × Value)} {filter : Filter}
    (made : before.instantiate spec values = .ok filter) : filter.spec = spec := by
  obtain ⟨_, made⟩ := instantiate_ok_iff.mp made
  refine @foldlM_relates _ _ Filter (fun first last => last.spec = first.spec) (fun _ => rfl)
    (fun first second => second.trans first) _ (fun state entry after accepted => ?_) _ _ _ made
  split at accepted
  · obtain rfl := Except.ok.inj accepted
    exact spec_set ..
  · cases accepted

def KeepsNames (catalogue : Catalogue) (spec : Nat) (body : List (String × Member)) : Prop :=
  ∀ id ∈ (catalogue.specClass spec).declared, ∀ name ∈ (namesOf body id).getLast?,
    name = (catalogue.field id).name

instance (catalogue : Catalogue) (spec : Nat) (body : List (String × Member)) :
    Decidable (catalogue.KeepsNames spec body) :=
  inferInstanceAs (Decidable (∀ id ∈ (catalogue.specClass spec).declared,
    ∀ name ∈ (namesOf body id).getLast?, name = (catalogue.field id).name))

/-- Whether a class is the same in two catalogues: in its fields and in what it takes, and in all that its
filters answer, store and are compiled to. -/
structure Agrees (before after : Catalogue) (spec : Nat) : Prop where
  fields : after.fieldsOf spec = before.fieldsOf spec
  instantiate : ∀ values, after.instantiate spec values = before.instantiate spec values
  get : ∀ values key, after.get ⟨spec, values⟩ key = before.get ⟨spec, values⟩ key
  set : ∀ values key value, after.set ⟨spec, values⟩ key value = before.set ⟨spec, values⟩ key value
  describe : ∀ values, after.describe ⟨spec, values⟩ = before.describe ⟨spec, values⟩
  compile : ∀ values,
    compileFilter after (some ⟨spec, values⟩) = compileFilter before (some ⟨spec, values⟩)

section Adds

variable {definition : Definition} {body : List (String × Member)} (sound : before.Sound)
  (adds : before.Adds definition after body) (earlier : spec < before.classes.length)
include sound adds earlier

theorem Adds.member?_of_lt (key : String) : after.member? spec key = before.member? spec key := by
  rw [member?_eq, member?_eq, adds.specClass_of_lt earlier,
    adds.bodies_of_lt fun id => sound.lt_of_mem_order earlier]

theorem Adds.field_of_mem_declared {id : Nat} (declared : id ∈ (before.specClass spec).declared) :
    after.field id =
      { before.field id with name := (namesOf body id).getLast?.getD (before.field id).name } := by
  have placed := sound.placed_of_mem_declared earlier declared
  rw [adds.field_of_lt placed.known, Field.boundTo_of_column _ placed.column]

theorem Adds.fieldsOf_eq : after.fieldsOf spec = (before.specClass spec).declared.map fun id =>
    { before.field id with name := (namesOf body id).getLast?.getD (before.field id).name } := by
  rw [fieldsOf, adds.specClass_of_lt earlier]
  exact List.map_congr_left fun id declared => adds.field_of_mem_declared sound earlier declared

theorem Adds.field_of_keepsNames (keeps : before.KeepsNames spec body) {id : Nat}
    (declared : id ∈ (before.specClass spec).declared) : after.field id = before.field id := by
  rw [adds.field_of_mem_declared sound earlier declared]
  cases last : (namesOf body id).getLast? with
  | none => rfl
  | some name => rw [Option.getD_some, keeps id declared name last]

theorem Adds.set_of_keepsNames (keeps : before.KeepsNames spec body) {filter : Filter}
    (made : filter.spec = spec) (key : String) (value : Value) :
    after.set filter key value = before.set filter key value := by
  subst made
  rw [set, set, adds.member?_of_lt sound earlier]
  split
  · rename_i id found
    rw [adds.field_of_keepsNames sound earlier keeps (sound.mem_declared_of_member? earlier found)]
  · rfl

theorem Adds.get_of_keepsNames (keeps : before.KeepsNames spec body) {filter : Filter}
    (made : filter.spec = spec) (key : String) : after.get filter key = before.get filter key := by
  subst made
  rw [get, get, adds.member?_of_lt sound earlier, adds.specClass_of_lt earlier]
  split
  · rename_i id _ found
    rw [adds.field_of_keepsNames sound earlier keeps (sound.mem_declared_of_member? earlier found)]
  all_goals rfl

theorem Adds.fieldsOf_of_keepsNames (keeps : before.KeepsNames spec body) :
    after.fieldsOf spec = before.fieldsOf spec := by
  rw [fieldsOf, fieldsOf, adds.specClass_of_lt earlier]
  exact List.map_congr_left fun id declared => adds.field_of_keepsNames sound earlier keeps declared

theorem Adds.setAll_of_keepsNames (keeps : before.KeepsNames spec body)
    (values : List (String × Value)) : after.setAll spec values = before.setAll spec values := by
  rw [setAll, setAll, adds.fieldsOf_of_keepsNames sound earlier keeps, adds.specClass_of_lt earlier]
  -- The filter in the making stays one of the class, which is all that setting an attribute relies on.
  refine @foldlM_congr _ _ _ (fun filter => filter.spec = spec) _ _ (fun filter entry made => ?_)
    (fun filter entry next made accepted => ?_) _ _ rfl
  · rw [adds.set_of_keepsNames sound earlier keeps made]
  · split at accepted
    · obtain rfl := Except.ok.inj accepted
      exact (spec_set ..).trans made
    · cases accepted

theorem Adds.agrees_of_keepsNames (keeps : before.KeepsNames spec body) : before.Agrees after spec := by
  have fields := adds.fieldsOf_of_keepsNames sound earlier keeps
  have gets (filter : Filter) (made : filter.spec = spec) : after.get filter = before.get filter :=
    funext (adds.get_of_keepsNames sound earlier keeps made)
  have reads (filter : Filter) (made : filter.spec = spec) :
      after.readings filter = before.readings filter := by
    rw [readings, readings, made, fields, gets filter made]
  have calls (filter : Filter) (made : filter.spec = spec) (operation : String) :
      after.checkCallable filter operation = before.checkCallable filter operation := by
    rw [checkCallable, checkCallable, gets filter made]
  constructor
  case fields => exact fields
  case instantiate =>
    intro values
    rw [instantiate, instantiate, adds.setAll_of_keepsNames sound earlier keeps]
  case get => exact fun values => congrFun (gets _ rfl)
  case set => exact fun values => adds.set_of_keepsNames sound earlier keeps rfl
  case describe =>
    intro values
    rw [describe, describe, items, items, calls _ rfl, reads _ rfl, adds.specClass_of_lt earlier]
  case compile =>
    intro values
    rw [compileFilter, compileFilter, calls _ rfl, reads _ rfl]

theorem Adds.agrees_iff_keepsNames : before.Agrees after spec ↔ before.KeepsNames spec body := by
  refine ⟨fun agrees id declared name last => ?_, adds.agrees_of_keepsNames sound earlier⟩
  have same := agrees.fields
  rw [fieldsOf, fieldsOf, adds.specClass_of_lt earlier] at same
  have kept := congrArg Field.name (List.map_inj_left.mp same id declared)
  rw [adds.field_of_mem_declared sound earlier declared, Option.mem_def.mp last] at kept
  exact kept

theorem Adds.keepsNames_of_unshared (unshared : ∀ entry ∈ definition.body, entry.2.isShared = false) :
    before.KeepsNames spec body := by
  intro id declared name last
  have known := (sound.placed_of_mem_declared earlier declared).known
  obtain ⟨made, evaluated, _⟩ := adds.fields
  have bound := mem_namesOf.mp (List.mem_of_getLast? last)
  have origin : before.Origin _ _ (.field id) := evaluated.origin _ bound
  cases origin with
  | made isNew => omega
  | shared shares =>
      obtain ⟨entry, listed, shared⟩ := List.any_eq_true.mp shares
      rw [unshared entry listed] at shared
      cases shared

end Adds

end Catalogue

/-- What a program does with filter classes: it defines one, makes a filter of one, or sets an attribute of
a filter, which is none of the language's own. Classes and filters go by their numbers. -/
inductive SpecStep where
  | define (definition : Definition)
  | create (spec : Nat) (values : List (String × Value))
  | set (number : Nat) (key : String) (value : Value) (unreserved : isReservedName key = false)

structure SpecSession where
  catalogue : Catalogue
  filters : List Filter

namespace SpecSession

def initial : SpecSession := ⟨.initial, []⟩

def perform (session : SpecSession) : SpecStep → SpecSession
  | .define definition =>
    match session.catalogue.define definition with
    | .ok catalogue => ⟨catalogue, session.filters⟩
    | .error _ => session
  | .create spec values =>
    if spec < session.catalogue.classes.length then
      match session.catalogue.instantiate spec values with
      | .ok filter => ⟨session.catalogue, session.filters ++ [filter]⟩
      | .error _ => session
    else session
  | .set number key value _ =>
    ⟨session.catalogue, session.filters.modify number fun filter => session.catalogue.set filter key value⟩

def run (steps : List SpecStep) : SpecSession := steps.foldl perform initial

structure Orderly (session : SpecSession) : Prop where
  sound : session.catalogue.Sound
  classed : ∀ filter ∈ session.filters, filter.spec < session.catalogue.classes.length

theorem Orderly.perform {session : SpecSession} (orderly : session.Orderly) (step : SpecStep) :
    (session.perform step).Orderly := by
  cases step with
  | define definition =>
      simp only [SpecSession.perform]
      split
      · rename_i after defined
        obtain ⟨body, adds⟩ := orderly.sound.adds_of_define defined
        exact ⟨adds.sound orderly.sound, fun filter listed => adds.lt_of_lt (orderly.classed filter listed)⟩
      · exact orderly
  | create spec values =>
      simp only [SpecSession.perform]
      split
      · rename_i known
        split
        · rename_i filter made
          refine ⟨orderly.sound, fun other listed => ?_⟩
          rcases List.mem_append.mp listed with old | new
          · exact orderly.classed other old
          · obtain rfl := List.mem_singleton.mp new
            exact Catalogue.spec_of_instantiate made ▸ known
        · exact orderly
      · exact orderly
  | set number key value =>
      refine ⟨orderly.sound, fun filter listed => ?_⟩
      obtain ⟨place, found⟩ := List.mem_iff_getElem?.mp listed
      simp only [SpecSession.perform, List.getElem?_modify] at found
      obtain ⟨old, held, rfl⟩ := Option.map_eq_some_iff.mp found
      have classed := orderly.classed old (List.mem_of_getElem? held)
      split
      · rw [Catalogue.spec_set]
        exact classed
      · exact classed

theorem orderly_run (steps : List SpecStep) : (run steps).Orderly := by
  suffices ∀ session : SpecSession, session.Orderly → (steps.foldl SpecSession.perform session).Orderly from
    this initial ⟨Catalogue.sound_initial, fun filter listed => (List.not_mem_nil listed).elim⟩
  induction steps with
  | nil => exact fun session orderly => orderly
  | cons step steps ih => exact fun session orderly => ih _ (orderly.perform step)

/-- After any definitions, creations and assignments, one more definition leaves the order, the columns and
the kinds of the fields of every earlier class as they were, and names anew those field objects that the new
body binds to another name last. Where it names none anew, which holds if it takes none over, the class and
all its filters are what they were; and only there. -/
theorem earlier_classes_change_by_new_names_only (steps : List SpecStep) {definition : Definition}
    {after : Catalogue} (defined : (run steps).catalogue.define definition = .ok after) :
    let before := (run steps).catalogue
    let body := (after.specClass before.classes.length).body
    (∀ filter ∈ (run steps).filters, filter.spec < before.classes.length) ∧
      ∀ spec < before.classes.length,
        after.specClass spec = before.specClass spec ∧
        (after.fieldsOf spec = (before.specClass spec).declared.map fun id =>
          { before.field id with
            name := (Catalogue.namesOf body id).getLast?.getD (before.field id).name }) ∧
        (before.Agrees after spec ↔ before.KeepsNames spec body) ∧
        ((∀ entry ∈ definition.body, entry.2.isShared = false) → before.Agrees after spec) := by
  intro before body
  have orderly := orderly_run steps
  have sound := orderly.sound
  obtain ⟨bound, adds⟩ := sound.adds_of_define defined
  obtain rfl : body = bound := adds.body_eq
  refine ⟨orderly.classed, fun spec earlier => ⟨adds.specClass_of_lt earlier,
    adds.fieldsOf_eq sound earlier, adds.agrees_iff_keepsNames sound earlier, fun unshared => ?_⟩⟩
  exact adds.agrees_of_keepsNames sound earlier (adds.keepsNames_of_unshared sound earlier unshared)

def nameSearch : List SpecStep :=
  [.define ⟨"NameFilter", [Catalogue.rootName], [("name", .field none none)], by decide⟩,
    .create 1 [("name", .text "Ada")]]

def employees : Definition :=
  ⟨"EmployeeFilter", [Catalogue.rootName],
    [("name", .sharedWith "NameFilter" "name"), ("team", .field none none)], by decide⟩

theorem employees_leave_names_as_they_are : ∃ after,
    (run nameSearch).catalogue.define employees = .ok after ∧
      (run nameSearch).catalogue.Agrees after 1 := by
  have defined : (run nameSearch).catalogue.define employees = .ok _ := rfl
  obtain ⟨_, each⟩ := earlier_classes_change_by_new_names_only nameSearch defined
  obtain ⟨_, _, agrees, _⟩ := each 1 (by decide)
  exact ⟨_, defined, agrees.mpr (by decide)⟩

def nicknames : Definition :=
  ⟨"NicknameFilter", [Catalogue.rootName], [("nickname", .sharedWith "NameFilter" "name")], by decide⟩

/-- Once there are nicknames, the class for names takes no name, and its filter can no longer be read. -/
theorem nicknames_rename_the_field_of_names : ∃ after filter,
    (run nameSearch).catalogue.define nicknames = .ok after ∧ filter ∈ (run nameSearch).filters ∧
      ¬ (run nameSearch).catalogue.Agrees after 1 ∧
      (run nameSearch).catalogue.fieldsOf 1 = [⟨"name", some "name", .equality⟩] ∧
      after.fieldsOf 1 = [⟨"nickname", some "name", .equality⟩] ∧
      compileFilter (run nameSearch).catalogue (some filter) =
        .ok [⟨"name", .known .equality, [.text "Ada"]⟩] ∧
      compileFilter after (some filter) = .error (.missingAttribute "NameFilter" "nickname") ∧
      after.instantiate 1 [("name", .text "Ada")] = .error (.unexpectedField "NameFilter" "name") := by
  have defined : (run nameSearch).catalogue.define nicknames = .ok _ := rfl
  refine ⟨_, ⟨1, [("name", .text "Ada")]⟩, defined, .head _, fun agrees => ?_, rfl, rfl, rfl, rfl, rfl⟩
  exact absurd agrees.fields (by decide)

end SpecSession

end RecordStore
