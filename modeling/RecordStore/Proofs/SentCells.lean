import Mathlib.Data.List.Nodup
import RecordStore.Proofs.Bindings
import RecordStore.Proofs.IdentifiedRows
import RecordStore.Session.Flush

/-!
The cells that a statement sends for a record. Every attribute that is sent has the cell of the value
that the record holds for it, and an attribute without a cell was not sent.
-/

namespace RecordStore

def Attribute.Binds (attr : Attribute) (value : Value) (cell : Cell) : Prop :=
  ∃ prepared, attr.bindType.prepare value = .ok prepared ∧ Cell.bind 1 prepared = .ok cell

theorem Attribute.identity_binds_null {cell : Cell} (binds : identity.Binds .null cell) :
    cell = .null := by
  obtain ⟨prepared, prepares, binds⟩ := binds
  obtain rfl := Except.ok.inj prepares
  exact (Except.ok.inj binds).symm

theorem Attribute.identity_binds_iff {value : Value} {cell : Cell} :
    identity.Binds value cell ↔ Cell.bind 1 value = .ok cell := by
  have prepares : identity.bindType.prepare value = .ok value := by
    cases value <;> rfl
  simp [Binds, prepares]

theorem Cell.bind_integer {id : Int} {cell : Cell} (binds : bind 1 (.integer id) = .ok cell) :
    cell = .integer id ∧ fits id = true := by
  simp only [Cell.bind] at binds
  split at binds
  · rename_i small
    exact ⟨(Except.ok.inj binds).symm, small⟩
  · cases binds

theorem Attribute.identity_binds_integer {id : Int} {cell : Cell}
    (binds : identity.Binds (.integer id) cell) : cell = .integer id ∧ Cell.fits id = true := by
  obtain ⟨prepared, prepares, binds⟩ := binds
  obtain rfl := Except.ok.inj prepares
  exact Cell.bind_integer binds

theorem Cell.bindFrom_forall₂ {position : Nat} {values : List Value} {cells : List Cell}
    (bound : bindFrom position values = .ok cells) :
    List.Forall₂ (fun value cell => bind 1 value = .ok cell) values cells := by
  induction values generalizing position cells with
  | nil =>
      obtain rfl := Except.ok.inj bound
      exact .nil
  | cons value values ih =>
      simp only [bindFrom, bind_eq_ok_iff] at bound
      obtain ⟨cell, first, rest, later, same⟩ := bound
      obtain rfl := Except.ok.inj same
      exact .cons ((bind_ok_iff_first position value cell).mp first) (ih later)

namespace Record

def sentIdentity? (record : Record) : Option Value :=
  match record.get? Attribute.identity.name with
  | some .null => none
  | held => held

def Gives (record : Record) (given : Option Cell) : Prop :=
  match record.sentIdentity? with
  | some id => ∃ cell, given = some cell ∧ Attribute.identity.Binds id cell
  | none => given = none

/-- What an update sends for an attribute: a value that was set and differs from the one before. -/
def netChange? (record : Record) (attr : Attribute) : Option (Attribute × Value) :=
  match record.changes.lookup attr.name, record.get? attr.name with
  | some before, some value => if (before.map value.same).getD false then none else some (attr, value)
  | _, _ => none

theorem netChange?_eq_some {record : Record} {attr : Attribute} {entry : Attribute × Value}
    (changes : record.netChange? attr = some entry) :
    ∃ before, record.changes.lookup attr.name = some before ∧ entry.1 = attr ∧
      record.get? attr.name = some entry.2 ∧ (before.map entry.2.same).getD false = false := by
  simp only [netChange?] at changes
  split at changes
  · rename_i before value changed held
    split at changes
    · cases changes
    · rename_i differs
      obtain rfl := Option.some.inj changes
      exact ⟨before, changed, rfl, held, by simpa using differs⟩
  · cases changes

end Record

theorem Model.nodup_names (model : Model) : (model.attributes.map Attribute.name).Nodup :=
  model.names_nodup

theorem Model.identity_mem (model : Model) : Attribute.identity ∈ model.attributes :=
  List.mem_append_right _ List.mem_cons_self

theorem Model.created_mem (model : Model) : Attribute.created ∈ model.attributes :=
  List.mem_append_right _ (List.mem_cons_of_mem _ List.mem_cons_self)

theorem Model.updated_mem (model : Model) : Attribute.updated ∈ model.attributes :=
  List.mem_append_right _ (List.mem_cons_of_mem _ (List.mem_cons_of_mem _ List.mem_cons_self))

namespace Workspace

def SentAs : List (Attribute × Value) → List (Attribute × Cell) → Prop :=
  List.Forall₂ fun entry cell => cell.1 = entry.1 ∧ entry.1.Binds entry.2 cell.2

theorem binds_of_bindAll {sent : List (Attribute × Value)} {bound : List Cell}
    (bindsAll : Cell.bindAll (writePlaces sent) = .ok bound) :
    List.Forall₂ (fun entry cell => entry.1.Binds entry.2 cell) sent bound := by
  obtain ⟨prepared, prepares, bindsFrom⟩ := bind_eq_ok_iff.mp bindsAll
  rw [mapM_eq_ok_iff, writePlaces, List.forall₂_map_left_iff] at prepares
  have binds := Cell.bindFrom_forall₂ bindsFrom
  clear bindsAll bindsFrom
  induction prepares generalizing bound with
  | nil =>
      cases binds
      exact .nil
  | cons first _ ih =>
      cases binds with
      | cons here later => exact .cons ⟨_, first, here⟩ (ih later)

theorem sentAs_of_bindAll {sent later : List (Attribute × Value)} {bound : List Cell}
    (bindsAll : Cell.bindAll (writePlaces (sent ++ later)) = .ok bound) :
    SentAs sent ((sent.map Prod.fst).zip bound) := by
  have binds := binds_of_bindAll bindsAll
  clear bindsAll
  induction sent generalizing bound with
  | nil => exact .nil
  | cons entry sent ih =>
      cases binds with
      | cons first rest => exact .cons ⟨rfl, first⟩ (ih rest)

theorem binds_last {sent : List (Attribute × Value)} {entry : Attribute × Value} {bound : List Cell}
    (binds : List.Forall₂ (fun entry cell => entry.1.Binds entry.2 cell) (sent ++ [entry]) bound)
    (otherwise : Cell) : entry.1.Binds entry.2 (bound.getLastD otherwise) := by
  induction sent generalizing bound otherwise with
  | nil =>
      obtain ⟨cell, rest, here, none, rfl⟩ := List.forall₂_cons_left_iff.mp binds
      obtain rfl := List.forall₂_nil_left_iff.mp none
      exact here
  | cons first sent ih =>
      obtain ⟨cell, rest, _, later, rfl⟩ := List.forall₂_cons_left_iff.mp binds
      rw [List.getLastD_cons]
      exact ih later cell

theorem cellOf?_of_sentAs {sent : List (Attribute × Value)} {cells : List (Attribute × Cell)}
    (sends : SentAs sent cells) (attr : Attribute) :
    match sent.find? fun entry => entry.1.name == attr.name with
    | none => cellOf? attr cells = none
    | some entry => ∃ cell, cellOf? attr cells = some cell ∧ entry.1.Binds entry.2 cell := by
  induction sends with
  | nil => rfl
  | @cons entry cell rest _ first _ ih =>
      obtain ⟨same, binds⟩ := first
      cases here : entry.1.name == attr.name with
      | true =>
          rw [List.find?_cons, here]
          exact ⟨cell.2, by simp [cellOf?, same, here], binds⟩
      | false =>
          simp only [List.find?_cons, cellOf?, same, here]
          exact ih

theorem find?_sent {attrs : List Attribute} {send : Attribute → Option (Attribute × Value)}
    (own : ∀ attr entry, send attr = some entry → entry.1 = attr)
    (distinct : (attrs.map Attribute.name).Nodup) {attr : Attribute} (listed : attr ∈ attrs) :
    ((attrs.filterMap send).find? fun entry => entry.1.name == attr.name) = send attr := by
  induction attrs with
  | nil => cases listed
  | cons first rest ih =>
      obtain ⟨apart, distinctRest⟩ := List.nodup_cons.mp distinct
      rcases List.mem_cons.mp listed with rfl | later
      · cases sends : send attr with
        | some entry => simp [sends, own attr entry sends]
        | none =>
            rw [List.filterMap_cons_none sends, List.find?_eq_none]
            intro entry sent same
            obtain ⟨other, there, sends⟩ := List.mem_filterMap.mp sent
            rw [own other entry sends, beq_iff_eq] at same
            exact apart (same ▸ List.mem_map_of_mem there)
      · have different : first.name ≠ attr.name := fun same =>
          apart (same ▸ List.mem_map_of_mem later)
        cases sends : send first with
        | some entry =>
            rw [List.filterMap_cons_some sends, List.find?_cons_of_neg, ih distinctRest later]
            simpa [own first entry sends] using different
        | none => rw [List.filterMap_cons_none sends, ih distinctRest later]

variable {model : Model} {stamped : Bool} {handle : Handle} {before after : Workspace}

theorem find?_insertValues (model : Model) (stamped : Bool) (record : Record) :
    ((insertValues model stamped record).find? fun entry =>
      entry.1.name == Attribute.identity.name) =
      record.sentIdentity?.map fun id => (Attribute.identity, id) := by
  rw [insertValues, find?_sent _ model.nodup_names model.identity_mem]
  · have unstamped : (Attribute.identity.name == Attribute.updated.name) = false := by decide
    have isOwn : Attribute.identity.isSetByStore = true := by decide
    simp only [unstamped, Bool.and_false, Bool.false_eq_true, if_false, isOwn, if_true,
      Record.sentIdentity?]
    cases record.get? Attribute.identity.name with
    | none => rfl
    | some value => cases value <;> rfl
  · intro attr entry sends
    split at sends
    · cases sends
    · split at sends
      · split at sends
        · cases sends
        · obtain rfl := Option.some.inj sends
          rfl
      · split at sends
        · cases sends
        · obtain rfl := Option.some.inj sends
          rfl
      · obtain rfl := Option.some.inj sends
        rfl

def sentChanges (model : Model) (stamped : Bool) (record : Record) : List (Attribute × Value) :=
  (record.netChanges model).filter fun entry => !(stamped && entry.1.name == Attribute.updated.name)

theorem find?_sentChanges (stamped : Bool) (record : Record) {attr : Attribute}
    (listed : attr ∈ model.attributes) (apart : attr.name ≠ Attribute.updated.name) :
    ((sentChanges model stamped record).find? fun entry => entry.1.name == attr.name) =
      record.netChange? attr := by
  have kept : ((sentChanges model stamped record).find? fun entry => entry.1.name == attr.name) =
      (record.netChanges model).find? fun entry => entry.1.name == attr.name := by
    rw [sentChanges, List.find?_filter]
    refine List.find?_congr fun entry _ => ?_
    by_cases same : entry.1.name = attr.name
    · simp [same, apart]
    · simp [same]
  rw [kept]
  refine find?_sent (fun other entry changes => ?_) model.nodup_names listed
  obtain ⟨_, _, own, _⟩ := Record.netChange?_eq_some changes
  exact own

def InsertsRow (model : Model) (stamped : Bool) (clock : Cell) (record : Record) (before after : Table)
    (row : Row) : Prop :=
  ∃ cells, SentAs (insertValues model stamped record) cells ∧
    before.insert model (cellOf? .identity cells) (insertCells model clock cells) = .ok (row, after)

/-- What an insert of a record does: the store puts a row under the identity that is sent, or under the
next, and the record holds the row and the identity that it was given. -/
theorem insertRecord_ok (ran : before.insertRecord model stamped handle = .ok after) :
    ∃ row table, InsertsRow model stamped before.clockCell (before.record handle) before.table table row ∧
      after = { before with table }.changeRecord handle (Record.load
        (assign Attribute.identity.name
          ((before.record handle).sentIdentity?.getD (.integer row.id)) (row.values model))) := by
  simp only [insertRecord, bind_eq_ok_iff] at ran
  obtain ⟨bound, binds, ⟨row, table⟩, accepted, inserted⟩ := ran
  rw [← List.append_nil (insertValues model stamped (before.record handle))] at binds
  refine ⟨row, table, ⟨_, sentAs_of_bindAll binds, accepted⟩, ?_⟩
  obtain rfl := Except.ok.inj inserted
  have same : (insertValues model stamped (before.record handle)).find?
      (fun entry => entry.1.isIdentity) = _ := find?_insertValues model stamped (before.record handle)
  rw [same]
  cases (before.record handle).sentIdentity? <;> rfl

theorem gives_of_sentAs {record : Record} {cells : List (Attribute × Cell)}
    (sends : SentAs (insertValues model stamped record) cells) :
    record.Gives (cellOf? .identity cells) := by
  have given := cellOf?_of_sentAs sends Attribute.identity
  rw [find?_insertValues model stamped record] at given
  rw [Record.Gives]
  cases held : record.sentIdentity? with
  | none =>
      rw [held] at given
      exact given
  | some id =>
      rw [held] at given
      exact given

def Rewrites (model : Model) (stamped : Bool) (record : Record) (before after : Table) : Prop :=
  ∃ place old cells moment row, Attribute.identity.Binds record.rowIdentity place ∧
    before.locate? place = some old ∧ SentAs (sentChanges model stamped record) cells ∧
    (∀ entry ∈ moment, entry.1 = Attribute.updated.column) ∧
    before.update model old (cellOf? .identity cells) (storedCells cells ++ moment) =
      .ok (row, after)

/-- An update of a record first reads the record if it has expired. Then it leaves the table as it is,
or updates the row of the record, which may then lose its moment of change. -/
theorem updateRecord_ok (ran : before.updateRecord model stamped handle = .ok after) :
    ∃ reloaded, before.reloadExpired model handle = .ok reloaded ∧
      (after = reloaded ∧ stamped = false ∧ sentChanges model stamped (reloaded.record handle) = [] ∨
        ∃ table, Rewrites model stamped (reloaded.record handle) reloaded.table table ∧
          (after = { reloaded with table } ∨
            after = { reloaded with table }.changeRecord handle fun record =>
              { record with values := unassign Attribute.updated.name record.values })) := by
  simp only [updateRecord, bind_eq_ok_iff] at ran
  obtain ⟨reloaded, reloads, ran⟩ := ran
  refine ⟨reloaded, reloads, ?_⟩
  split at ran
  · rename_i nothing
    obtain rfl := Except.ok.inj ran
    simp only [Bool.and_eq_true, List.isEmpty_iff, Bool.not_eq_true'] at nothing
    exact .inl ⟨rfl, nothing.2, nothing.1⟩
  · obtain ⟨bound, binds, ran⟩ := bind_eq_ok_iff.mp ran
    have sends := sentAs_of_bindAll binds
    have located := binds_last (binds_of_bindAll binds) .null
    split at ran
    · cases ran
    · rename_i old found
      obtain ⟨⟨row, table⟩, accepted, updated⟩ := bind_eq_ok_iff.mp ran
      obtain rfl := Except.ok.inj updated
      refine .inr ⟨table, ⟨_, old, _, _, row, located, found, sends, ?_, accepted⟩, ?_⟩
      · split
        · exact fun entry listed => absurd listed List.not_mem_nil
        · exact fun entry listed => congrArg Prod.fst (List.mem_singleton.mp listed)
      · split
        · exact .inl rfl
        · exact .inr rfl

end Workspace
end RecordStore
