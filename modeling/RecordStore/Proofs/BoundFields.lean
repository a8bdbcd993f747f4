import RecordStore.Filter.Spec
import RecordStore.Proofs.Entries

/-!
Field objects and the bodies that bind them. Binding gives an object its last name and, once and for all, a
column; the bodies along the order of a class declare, for each attribute, the object of the nearest one.
-/

namespace RecordStore

namespace Member

def field? : Member → Option Nat
  | field id => some id
  | plain _ => none

@[simp] theorem field?_eq_some {member : Member} {id : Nat} :
    member.field? = some id ↔ member = field id := by
  cases member <;> simp [field?]

end Member

namespace Field

def boundTo (names : List String) (field : Field) : Field :=
  names.foldl (fun field name => field.bind name) field

variable (names : List String) (field : Field)

@[simp] theorem boundTo_cons (name : String) :
    field.boundTo (name :: names) = (field.bind name).boundTo names := rfl

theorem name_boundTo : (field.boundTo names).name = names.getLast?.getD field.name := by
  induction names generalizing field with
  | nil => rfl
  | cons name names ih => rw [boundTo_cons, ih, List.getLast?_cons, Option.getD_some, bind]

theorem column_boundTo : (field.boundTo names).column = field.column.or names.head? := by
  induction names generalizing field with
  | nil => exact Option.or_none.symm
  | cons name names ih =>
      obtain ⟨own, column, condition⟩ := field
      rw [boundTo_cons, ih, List.head?_cons]
      cases column <;> rfl

theorem condition_boundTo : (field.boundTo names).condition = field.condition := by
  induction names generalizing field with
  | nil => rfl
  | cons name names ih => rw [boundTo_cons, ih, bind]

theorem boundTo_of_column {field : Field} (given : field.column.isSome) :
    field.boundTo names = { field with name := names.getLast?.getD field.name } := by
  obtain ⟨column, same⟩ := Option.isSome_iff_exists.mp given
  have kept : (field.boundTo names).column = field.column := by
    rw [column_boundTo, same, Option.some_or]
  rw [← name_boundTo, ← kept, ← condition_boundTo names field]

end Field

namespace Catalogue

def namesOf (body : List (String × Member)) (id : Nat) : List String :=
  body.filterMap fun entry => if entry.2.field? = some id then some entry.1 else none

theorem mem_namesOf {body : List (String × Member)} {key : String} {id : Nat} :
    key ∈ namesOf body id ↔ (key, .field id) ∈ body := by
  constructor
  · intro named
    obtain ⟨⟨other, member⟩, bound, same⟩ := List.mem_filterMap.mp named
    obtain ⟨isField, same⟩ := Option.ite_none_right_eq_some.mp same
    obtain rfl := Option.some.inj same
    exact Member.field?_eq_some.mp isField ▸ bound
  · exact fun bound => List.mem_filterMap.mpr ⟨_, bound, if_pos rfl⟩

theorem namesOf_ne_nil {body : List (String × Member)} {key : String} {id : Nat}
    (bound : (key, .field id) ∈ body) : namesOf body id ≠ [] :=
  List.ne_nil_of_mem (mem_namesOf.mpr bound)

theorem getElem?_bindNames (fields : List Field) (body : List (String × Member)) (id : Nat) :
    (bindNames fields body)[id]? = fields[id]?.map (Field.boundTo (namesOf body id)) := by
  induction body generalizing fields with
  | nil => exact Option.map_id'.symm
  | cons entry body ih =>
      obtain ⟨key, member⟩ := entry
      cases member with
      | plain value => exact ih fields
      | field other =>
          refine (ih _).trans ?_
          rw [List.getElem?_modify]
          by_cases same : other = id
          · subst same
            have first : namesOf ((key, .field other) :: body) other = key :: namesOf body other := by
              simp [namesOf]
            simp only [first, if_true]
            cases fields[other]? <;> rfl
          · have skipped : namesOf ((key, .field other) :: body) id = namesOf body id := by
              simp [namesOf, same]
            simp only [skipped, same, if_false]
            cases fields[id]? <;> rfl

theorem length_bindNames (fields : List Field) (body : List (String × Member)) :
    (bindNames fields body).length = fields.length := by
  induction body generalizing fields with
  | nil => rfl
  | cons entry body ih =>
      obtain ⟨key, member⟩ := entry
      cases member with
      | plain value => exact ih fields
      | field other => exact (ih _).trans (List.length_modify _ _ _)

def fieldEntries (body : List (String × Member)) : List (String × Nat) :=
  body.filterMap fun entry => entry.2.field?.map fun id => (entry.1, id)

theorem mem_fieldEntries {body : List (String × Member)} {key : String} {id : Nat} :
    (key, id) ∈ fieldEntries body ↔ (key, .field id) ∈ body := by
  constructor
  · intro listed
    obtain ⟨⟨other, member⟩, found, same⟩ := List.mem_filterMap.mp listed
    obtain ⟨_, isField, same⟩ := Option.map_eq_some_iff.mp same
    cases same
    exact Member.field?_eq_some.mp isField ▸ found
  · exact fun found => List.mem_filterMap.mpr ⟨_, found, rfl⟩

theorem distinct_fieldEntries {body : List (String × Member)} (distinct : Distinct body) :
    Distinct (fieldEntries body) := by
  induction body with
  | nil => exact distinct
  | cons entry body ih =>
      obtain ⟨key, member⟩ := entry
      obtain ⟨apart, distinctRest⟩ := List.nodup_cons.mp distinct
      cases member with
      | plain value => exact ih distinctRest
      | field id =>
          refine List.nodup_cons.mpr ⟨fun listed => apart ?_, ih distinctRest⟩
          obtain ⟨⟨other, _⟩, found, same⟩ := List.mem_map.mp listed
          exact List.mem_map.mpr ⟨_, mem_fieldEntries.mp found, same⟩

theorem lookup_fieldEntries {body : List (String × Member)} (distinct : Distinct body) (key : String) :
    (fieldEntries body).lookup key = (body.lookup key).bind Member.field? := by
  refine Option.ext fun id => ⟨fun found => ?_, fun found => ?_⟩
  · have bound := lookup_of_mem distinct (mem_fieldEntries.mp (mem_of_lookup found))
    exact Option.bind_eq_some_iff.mpr ⟨_, bound, rfl⟩
  · obtain ⟨member, found, isField⟩ := Option.bind_eq_some_iff.mp found
    obtain rfl := Member.field?_eq_some.mp isField
    exact lookup_of_mem (distinct_fieldEntries distinct) (mem_fieldEntries.mpr (mem_of_lookup found))

theorem namesOf_eq_filterMap (body : List (String × Member)) (id : Nat) :
    namesOf body id = (fieldEntries body).filterMap fun entry =>
      if entry.2 = id then some entry.1 else none := by
  rw [fieldEntries, List.filterMap_filterMap, namesOf]
  congr 1
  funext entry
  obtain ⟨key, member⟩ := entry
  cases member <;> simp [Member.field?]

theorem nodup_namesOf {body : List (String × Member)} (distinct : Distinct body) (id : Nat) :
    (namesOf body id).Nodup := by
  have sublist : (namesOf body id).Sublist (body.map Prod.fst) := by
    induction body with
    | nil => exact List.Sublist.slnil
    | cons entry body ih =>
        have kept := ih (List.nodup_cons.mp distinct).2
        rw [namesOf, List.filterMap_cons]
        split
        · exact kept.cons _
        · rename_i name named
          obtain ⟨_, same⟩ := Option.ite_none_right_eq_some.mp named
          obtain rfl := Option.some.inj same
          exact kept.cons_cons _
  exact List.Nodup.sublist sublist distinct

def declarations (bodies : List (List (String × Member))) : List (String × Nat) :=
  assignAll [] (fieldEntries bodies.reverse.flatten)

theorem collect_eq (bodies : List (List (String × Member))) :
    collect bodies = (declarations bodies).map Prod.snd := by
  rw [collect, declarations, assignAll, fieldEntries, List.foldl_filterMap]
  congr
  funext declared entry
  obtain ⟨key, member⟩ := entry
  cases member <;> rfl

theorem declarations_cons (body : List (String × Member)) (bodies : List (List (String × Member))) :
    declarations (body :: bodies) = assignAll (declarations bodies) (fieldEntries body) := by
  simp [declarations, fieldEntries, assignAll, List.filterMap_append, List.foldl_append]

theorem exists_mem_of_mem_declarations {bodies : List (List (String × Member))} {key : String} {id : Nat}
    (declared : (key, id) ∈ declarations bodies) : ∃ body ∈ bodies, (key, .field id) ∈ body := by
  have bound := mem_fieldEntries.mp ((mem_assignAll declared).resolve_left List.not_mem_nil)
  obtain ⟨body, among, bound⟩ := List.mem_flatten.mp bound
  exact ⟨body, List.mem_reverse.mp among, bound⟩

theorem lookup_declarations {bodies : List (List (String × Member))}
    (distinct : ∀ body ∈ bodies, Distinct body) (key : String) :
    (declarations bodies).lookup key =
      bodies.findSome? fun body => (body.lookup key).bind Member.field? := by
  induction bodies with
  | nil => rfl
  | cons body bodies ih =>
      obtain ⟨nearest, further⟩ := List.forall_mem_cons.mp distinct
      rw [declarations_cons, lookup_assignAll, lookup_assignAll_nil key (distinct_fieldEntries nearest),
        lookup_fieldEntries nearest, ih further, List.findSome?_cons]
      cases (body.lookup key).bind Member.field? <;> rfl

theorem exists_mem_of_mem_collect {bodies : List (List (String × Member))} {id : Nat}
    (declared : id ∈ collect bodies) : ∃ body ∈ bodies, ∃ key, (key, .field id) ∈ body := by
  rw [collect_eq] at declared
  obtain ⟨⟨key, _⟩, listed, rfl⟩ := List.mem_map.mp declared
  obtain ⟨body, among, bound⟩ := exists_mem_of_mem_declarations listed
  exact ⟨body, among, key, bound⟩

/-- The field object that a class finds along its order is one that it declares. -/
theorem mem_collect_of_findSome? {bodies : List (List (String × Member))}
    (distinct : ∀ body ∈ bodies, Distinct body) {key : String} {id : Nat}
    (found : (bodies.findSome? fun body => body.lookup key) = some (.field id)) :
    id ∈ collect bodies := by
  obtain ⟨before, body, after, rfl, bound, absent⟩ := List.findSome?_eq_some_iff.mp found
  have declared : (declarations (before ++ body :: after)).lookup key = some id := by
    rw [lookup_declarations distinct, List.findSome?_eq_some_iff]
    refine ⟨before, body, after, rfl, ?_, fun earlier among => ?_⟩
    · rw [bound]
      rfl
    · rw [absent earlier among]
      rfl
  rw [collect_eq]
  exact List.mem_map.mpr ⟨_, mem_of_lookup declared, rfl⟩

end Catalogue

end RecordStore
