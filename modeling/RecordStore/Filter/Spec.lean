import RecordStore.Assoc
import RecordStore.Failure.Basic
import RecordStore.Filter.Linearization
import RecordStore.Value.Display

/-!
Filter specifications. A catalogue holds the classes that were defined and the field objects that
their bodies bind. A field object may be bound by several classes and under several names: it
answers to the last name it was bound to, and its column is the first one it was given.
-/

namespace RecordStore

structure Field where
  name : String
  column : Option String
  condition : Condition
  deriving DecidableEq, Repr, Inhabited

namespace Field

def bind (name : String) (field : Field) : Field :=
  ⟨name, some (field.column.getD name), field.condition⟩

def target (field : Field) : String :=
  match field.column with
  | none => field.name
  | some column => if column.isEmpty then field.name else column

def describe (field : Field) : String :=
  let column := match field.column with
    | none => "None"
    | some column => Text.quoted column
  "FilterField(name=" ++ Text.quoted field.name ++ ", column=" ++ column ++ ", kind=" ++
    field.condition.name ++ ")"

end Field

inductive Declaration where
  /-- A new field, with its column and kind where they are given. -/
  | field (column : Option String) (kind : Option Value)
  /-- The same object as another attribute of this body. -/
  | sameAs (key : String)
  /-- The same object as an attribute in the body of an earlier class. -/
  | sharedWith (spec key : String)
  | plain (value : Value)
  deriving Inhabited

def isReservedName (name : String) : Bool :=
  name.toList.take 2 == ['_', '_'] && name.toList.reverse.take 2 == ['_', '_']

/-- The definition of a class: its name, its bases and its body in order. A body that binds a reserved
name would replace the machinery of its class, and is none. -/
structure Definition where
  name : String
  bases : List String
  body : List (String × Declaration)
  unreserved : ∀ entry ∈ body, isReservedName entry.1 = false := by decide
  deriving Inhabited

inductive Member where
  | field (id : Nat)
  | plain (value : Value)
  deriving Inhabited

/-- A class of the catalogue. Its order holds the numbers of its classes, itself first; `declared`
holds its field objects, those of the furthest class first. -/
structure SpecClass where
  name : String
  body : List (String × Member)
  order : List Nat
  declared : List Nat
  deriving Inhabited

structure Catalogue where
  fields : List Field
  classes : List SpecClass
  deriving Inhabited

structure Filter where
  /-- The number of the class. -/
  spec : Nat
  values : List (String × Value)
  deriving Inhabited

namespace Catalogue

def rootName : String := "FilterSpec"

def initial : Catalogue := ⟨[], [⟨rootName, [], [0], []⟩]⟩

def find? (catalogue : Catalogue) (name : String) : Option Nat :=
  let indices := (List.range catalogue.classes.length).reverse
  indices.find? fun index => (catalogue.classes[index]?.map SpecClass.name) == some name

def specClass (catalogue : Catalogue) (spec : Nat) : SpecClass :=
  catalogue.classes[spec]?.getD default

def field (catalogue : Catalogue) (id : Nat) : Field :=
  catalogue.fields[id]?.getD default

def condition (kind : Option Value) : Except Failure Condition :=
  match kind with
  | none => .ok .equality
  | some value =>
    match value.asText?.bind Condition.ofName? with
    | some condition => .ok condition
    | none => .error (.invalidCondition value)

def unknownKey (name : String) : Failure := .foreign ⟨.key, [.text name]⟩

/-- Evaluates a class body in order. New field objects join the catalogue unnamed; a repeated
attribute keeps its place and takes its last value. -/
def evaluate (catalogue : Catalogue) (members : List (String × Member)) :
    List (String × Declaration) → Except Failure (Catalogue × List (String × Member))
  | [] => .ok (catalogue, members)
  | (key, declaration) :: rest => do
    let (catalogue, member) ← match declaration with
      | .field column kind => do
        let condition ← condition kind
        pure (⟨catalogue.fields ++ [⟨"", column, condition⟩], catalogue.classes⟩,
          Member.field catalogue.fields.length)
      | .sameAs other =>
        match members.lookup other with
        | some member => pure (catalogue, member)
        | none => throw (unknownKey other)
      | .sharedWith spec other =>
        match (catalogue.find? spec).bind fun id => (catalogue.specClass id).body.lookup other with
        | some member => pure (catalogue, member)
        | none => throw (unknownKey other)
      | .plain value => pure (catalogue, Member.plain value)
    evaluate catalogue (assign key member members) rest

def bindNames (fields : List Field) (members : List (String × Member)) : List Field :=
  members.foldl (fun fields entry =>
    match entry.2 with
    | .field id => fields.modify id (Field.bind entry.1)
    | .plain _ => fields) fields

/-- The field objects that the classes of an order declare: those of the furthest class first; a
redeclared attribute keeps its place and takes the nearer object. -/
def collect (bodies : List (List (String × Member))) : List Nat :=
  let declared := bodies.reverse.flatten.foldl (fun declared entry =>
    match entry.2 with
    | .field id => assign entry.1 id declared
    | .plain _ => declared) ([] : List (String × Nat))
  declared.map Prod.snd

def repeated? : List String → Option String
  | [] => none
  | name :: rest => if rest.contains name then some name else repeated? rest

def define (catalogue : Catalogue) (definition : Definition) :
    Except Failure Catalogue := do
  let (catalogue, members) ← evaluate catalogue [] definition.body
  let bases ← definition.bases.mapM fun base =>
    match catalogue.find? base with
    | some id => pure id
    | none => throw (unknownKey base)
  match repeated? definition.bases with
  | some base => throw (.duplicateBase base)
  | none => pure ()
  let self := catalogue.classes.length
  let order ← match Linearization.ofBases self bases
      (bases.map fun base => (catalogue.specClass base).order) with
    | .ok order => pure order
    | .error blocked =>
      throw (.inconsistentBases (blocked.map fun id => (catalogue.specClass id).name))
  let fields := bindNames catalogue.fields members
  let bodies := members :: (order.drop 1).map fun id => (catalogue.specClass id).body
  pure ⟨fields, catalogue.classes ++ [⟨definition.name, members, order, collect bodies⟩]⟩

def fieldsOf (catalogue : Catalogue) (spec : Nat) : List Field :=
  (catalogue.specClass spec).declared.map catalogue.field

def member? (catalogue : Catalogue) (spec : Nat) (key : String) : Option Member :=
  (catalogue.specClass spec).order.findSome? fun id =>
    (catalogue.specClass id).body.lookup key

/-- Sets an attribute of a filter; a field stores its value under the name it answers to. -/
def set (catalogue : Catalogue) (filter : Filter) (key : String) (value : Value) : Filter :=
  match catalogue.member? filter.spec key with
  | some (.field id) => ⟨filter.spec, assign (catalogue.field id).name value filter.values⟩
  | _ => ⟨filter.spec, assign key value filter.values⟩

def get (catalogue : Catalogue) (filter : Filter) (key : String) : Except Failure Value :=
  match catalogue.member? filter.spec key, filter.values.lookup key with
  | some (.field id), _ =>
    .ok ((filter.values.lookup (catalogue.field id).name).getD Value.empty)
  | _, some value => .ok value
  | some (.plain value), none => .ok value
  | none, none => .error (.missingAttribute (catalogue.specClass filter.spec).name key)

def receiverName : String := "self"

def setAll (catalogue : Catalogue) (spec : Nat) (values : List (String × Value)) :
    Except Failure Filter :=
  let known := (catalogue.fieldsOf spec).map Field.name
  values.foldlM (fun filter entry =>
    if known.contains entry.1 then .ok (catalogue.set filter entry.1 entry.2)
    else .error (.unexpectedField (catalogue.specClass spec).name entry.1)) ⟨spec, []⟩

def instantiate (catalogue : Catalogue) (spec : Nat) (values : List (String × Value)) :
    Except Failure Filter :=
  if (values.lookup receiverName).isSome then
    .error (.repeatedArgument (rootName ++ ".__init__") receiverName)
  else catalogue.setAll spec values

def itemsName : String := "items"

/-- An attribute that hides an operation of the root class is no operation. -/
def checkCallable (catalogue : Catalogue) (filter : Filter) (operation : String) :
    Except Failure Unit :=
  match catalogue.get filter operation with
  | .ok value => .error (.notCallable value.typeName)
  | .error _ => .ok ()

def readings (catalogue : Catalogue) (filter : Filter) : List (Field × Except Failure Value) :=
  (catalogue.fieldsOf filter.spec).map fun field => (field, catalogue.get filter field.name)

def items (catalogue : Catalogue) (filter : Filter) : Except Failure (List (Field × Value)) := do
  catalogue.checkCallable filter itemsName
  (catalogue.readings filter).mapM fun reading => reading.2.map fun value => (reading.1, value)

def describe (catalogue : Catalogue) (filter : Filter) : Except Failure String := do
  let items ← catalogue.items filter
  let texts := items.map fun item => item.1.name ++ "=" ++ item.2.literal
  pure ((catalogue.specClass filter.spec).name ++ "(" ++ Value.commaSeparated texts ++ ")")

end Catalogue
end RecordStore
