import RecordStore.Value.Same
import RecordStore.Failure.Basic

/-!
Models: the attributes of a kind of record and the columns that hold them. Every model ends in
the three base attributes: the identity and two timestamps that the store sets.
-/

namespace RecordStore

inductive ColumnType where
  | integer
  | text (length : Option Nat)
  | boolean
  | float
  | moment
  deriving DecidableEq, Repr, Inhabited

structure Attribute where
  name : String
  column : String
  type : ColumnType
  nullable : Bool := false
  unique : Bool := false
  /-- The value that an insert gives to the attribute when it is not set. -/
  default : Value := .null
  deriving Inhabited

namespace Attribute

def identity : Attribute := ⟨"id", "id", .integer, false, false, .null⟩

def created : Attribute := ⟨"created_time", "created_time", .moment, false, false, .null⟩

def updated : Attribute := ⟨"updated_time", "updated_time", .moment, false, false, .null⟩

def isIdentity (attr : Attribute) : Bool := attr.name == identity.name

def isSetByStore (attr : Attribute) : Bool :=
  attr.isIdentity || attr.name == created.name || attr.name == updated.name

def base : List Attribute := [identity, created, updated]

def isPlainlyNamed (attr : Attribute) : Bool :=
  attr.column.toList.all fun letter => !"%():.[]$ ".toList.contains letter

end Attribute

/-- A kind of record: its table and its own attributes, in the order of the columns. Attribute
names do not repeat, nor do column names. Columns are plainly named: in the names of parameters all
other signs are replaced, so that two columns could have parameters of one name. -/
structure Model where
  name : String
  table : String
  own : List Attribute
  names_nodup : ((own ++ Attribute.base).map Attribute.name).Nodup := by decide
  columns_nodup : ((own ++ Attribute.base).map Attribute.column).Nodup := by decide
  plainly_named : ∀ attr ∈ own, attr.isPlainlyNamed = true := by decide

namespace Model

def attributes (model : Model) : List Attribute := model.own ++ Attribute.base

def attribute? (model : Model) (name : String) : Option Attribute :=
  model.attributes.find? fun attr => attr.name == name

def column? (model : Model) (column : String) : Option Attribute :=
  model.attributes.find? fun attr => attr.column == column

def resolve (model : Model) (column : String) : Except Failure Attribute :=
  match model.column? column with
  | some attr => .ok attr
  | none => .error (.unknownColumn model.name column)

def newRecord (model : Model) (fields : List (String × Value)) : Except Failure Value :=
  match fields.find? fun field => (model.attribute? field.1).isNone with
  | some (name, _) => .error (.unknownAttribute name model.name)
  | none => .ok (.record model.name fields)

end Model

/-- Whether an identity marks a record as new: it is missing, null or zero. -/
def isNewIdentity (id : Option Value) : Bool :=
  match id with
  | none => true
  | some .null => true
  | some id => id.isZero

def isNew (record : Value) : Bool := isNewIdentity (record.attribute? "id")

end RecordStore
