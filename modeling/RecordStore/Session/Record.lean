import RecordStore.Assoc
import RecordStore.Model.Basic
import RecordStore.Value.Same

/-!
Records in memory. A record holds the attributes that it was given or that were read from its row,
and remembers what changed since.
-/

namespace RecordStore

structure Record where
  /-- The attributes that it holds. -/
  values : List (String × Value)
  /-- The attributes that were set since the store last saw the record, with what it held before. -/
  changes : List (String × Option Value) := []
  /-- The identity under which the store knows the record. -/
  key : Option Value := none
  /-- Whether the attributes have to be read again. -/
  expired : Bool := false
  /-- Whether the row was deleted. -/
  deleted : Bool := false
  deriving Inhabited

namespace Record

def get? (record : Record) (name : String) : Option Value := record.values.lookup name

/-- Sets an attribute; what the record held before the first change is remembered. -/
def set (name : String) (value : Value) (record : Record) : Record :=
  { record with
    values := assign name value record.values
    changes :=
      if (record.changes.lookup name).isSome then record.changes
      else record.changes ++ [(name, record.get? name)] }

def setAll (values : List (String × Value)) (record : Record) : Record :=
  values.foldl (fun record entry => record.set entry.1 entry.2) record

def netChanges (model : Model) (record : Record) : List (Attribute × Value) :=
  model.attributes.filterMap fun attr =>
    match record.changes.lookup attr.name, record.get? attr.name with
    | some before, some value =>
      if (before.map value.same).getD false then none else some (attr, value)
    | _, _ => none

/-- The identity of the row that the record was read from, as far as the record knows it. -/
def rowIdentity (record : Record) : Value :=
  match record.changes.lookup Attribute.identity.name with
  | some (some before) => before
  | _ => (record.get? Attribute.identity.name).getD .null

def expire (record : Record) : Record :=
  { record with values := [], changes := [], expired := true }

def load (values : List (String × Value)) (record : Record) : Record :=
  { record with values := values, changes := [], expired := false }

def fill (values : List (String × Value)) (record : Record) : Record :=
  let missing := values.filter fun entry =>
    (record.get? entry.1).isNone && (record.changes.lookup entry.1).isNone
  { record with values := record.values ++ missing, expired := false }

def forget (record : Record) : Record :=
  { record with key := none, deleted := false }

def hasKey (key : Value) (record : Record) : Bool :=
  match record.key with
  | some held => held.same key
  | none => false

end Record
end RecordStore
