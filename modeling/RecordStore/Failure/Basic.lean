import RecordStore.Failure.Foreign
import RecordStore.Failure.Store

/-!
Failures as causes. Each constructor says what went wrong; its text and the name that messages
give it are functions of the cause.
-/

namespace RecordStore

inductive Category where
  | general
  | precondition
  | filter
  | persistence
  | session
  | unitOfWork
  | connection
  deriving DecidableEq, Repr, Inhabited

namespace Category

def all : List Category :=
  [general, precondition, filter, persistence, session, unitOfWork, connection]

def name : Category → String
  | general => "BaseModelError"
  | precondition => "PreconditionError"
  | filter => "FilterError"
  | persistence => "PersistenceError"
  | session => "SessionManagementError"
  | unitOfWork => "UnitOfWorkError"
  | connection => "DatabaseConnectionError"

def ofName? (name : String) : Option Category :=
  all.find? fun category => category.name == name

def chain : Category → List Category
  | general => [general]
  | precondition => [precondition, general]
  | filter => [filter, general]
  | persistence => [persistence, general]
  | session => [session, persistence, general]
  | unitOfWork => [unitOfWork, persistence, general]
  | connection => [connection, persistence, general]

end Category

inductive Failure where
  /-- A record to be created has an identity already. -/
  | notNew (record : Value)
  /-- A record to be saved has no identity yet. -/
  | stillNew (record : Value)
  /-- A filter value does not suit its field's condition. -/
  | filterType (field kind expected : String) (value : Value)
  | unknownColumn (model column : String)
  | recordNotFound (model : String) (id : Value)
  | twoSessionSources
  | noSessionSource
  | sessionNotCreated
  | unitNotInitialised (cause : Failure)
  | sessionNotClosed (cause : Failure)
  | rollbackFailed (cause : Failure)
  | notConnected
  | engineNotCreated (cause : Failure)
  | pingFailed (cause : Failure)
  /-- A failure of the library's own classes, raised with arguments. -/
  | raised (category : Category) (arguments : List Value)
  /-- No operator is registered for a condition. -/
  | unsupportedCondition (label : String)
  | missingOperand
  /-- A comparison that null and truth values cannot take part in. -/
  | constantOperand
  /-- A record of a model stands where something is to be compared with a column. -/
  | recordOperand
  /-- A text column needs a length in this dialect. -/
  | lengthRequired (table column : String)
  | quotientTooLarge
  | unknownAttribute (name model : String)
  | unexpectedField (spec field : String)
  /-- A keyword names an argument that the operation has already. -/
  | repeatedArgument (operation argument : String)
  | invalidCondition (value : Value)
  | inconsistentBases (bases : List String)
  | duplicateBase (base : String)
  | missingAttribute (owner name : String)
  | missingClassAttribute (owner name : String)
  /-- A value stands where an operation is called. -/
  | notCallable (typeName : String)
  | missingModule (name : String)
  | store (failure : StoreFailure)
  | foreign (failure : ForeignFailure)
  deriving Inhabited, Repr

namespace Failure

def ofName (name : String) (arguments : List Value) : Failure :=
  match name, arguments with
  | "NotNewRecordError", [record] => notNew record
  | "IsNewRecordError", [record] => stillNew record
  | "FilterTypeError", [field, kind, expected, value] =>
    filterType field.plain kind.plain expected.plain value
  | "UnknownColumnError", [model, column] => unknownColumn model.plain column.plain
  | "RecordNotFoundError", [model, id] => recordNotFound model.plain id
  | name, arguments =>
    match Category.ofName? name, ForeignKind.ofName? name with
    | some category, _ => raised category arguments
    | none, some kind => foreign ⟨kind, arguments⟩
    | none, none => foreign ⟨.value, arguments⟩

def category? : Failure → Option Category
  | notNew _ => some .precondition
  | stillNew _ => some .precondition
  | filterType .. => some .filter
  | unknownColumn .. => some .filter
  | recordNotFound .. => some .persistence
  | twoSessionSources => some .session
  | noSessionSource => some .session
  | sessionNotCreated => some .unitOfWork
  | unitNotInitialised _ => some .session
  | sessionNotClosed _ => some .session
  | rollbackFailed _ => some .unitOfWork
  | notConnected => some .connection
  | engineNotCreated _ => some .connection
  | pingFailed _ => some .connection
  | raised category _ => some category
  | _ => none

def typeName : Failure → String
  | notNew _ => "NotNewRecordError"
  | stillNew _ => "IsNewRecordError"
  | filterType .. => "FilterTypeError"
  | unknownColumn .. => "UnknownColumnError"
  | recordNotFound .. => "RecordNotFoundError"
  | unsupportedCondition _ => "ValueError"
  | missingOperand => "IndexError"
  | constantOperand => "ArgumentError"
  | recordOperand => "ArgumentError"
  | lengthRequired .. => "CompileError"
  | quotientTooLarge => "OverflowError"
  | unknownAttribute .. => "TypeError"
  | unexpectedField .. => "TypeError"
  | repeatedArgument .. => "TypeError"
  | invalidCondition _ => "ValueError"
  | inconsistentBases _ => "TypeError"
  | duplicateBase _ => "TypeError"
  | missingAttribute .. => "AttributeError"
  | missingClassAttribute .. => "AttributeError"
  | notCallable _ => "TypeError"
  | missingModule _ => "ModuleNotFoundError"
  | store failure => failure.typeName
  | foreign failure => failure.typeName
  | failure => (failure.category?.getD .general).name

def identityOf (record : Value) : Value :=
  (record.attribute? "id").getD .null

def inside (cause : Failure) (text : String) : String :=
  match cause with
  | store failure => failure.fullText
  | _ => text

def message : Failure → String
  | notNew record =>
    "cannot create row. not a new record: " ++ record.typeName ++ "(id=" ++
      (identityOf record).literal ++ ")"
  | stillNew record => "cannot save row. it is a new record: " ++ record.typeName
  | filterType field kind expected value =>
    "filter field " ++ Text.quoted field ++ " (" ++ kind ++ ") expects " ++ expected ++ ", got " ++
      value.typeName
  | unknownColumn model column => "Model " ++ model ++ " has no column " ++ Text.quoted column
  | recordNotFound model id => model ++ " with id=" ++ id.literal ++ " not found"
  | twoSessionSources =>
    "Cannot provide both 'session' and 'session_factory'. Use either caller-managed (session) " ++
      "or self-managed (session_factory) pattern."
  | noSessionSource =>
    "Must provide either 'session' or 'session_factory'. Use caller-managed pattern with " ++
      "session=(AsyncSession) or self-managed pattern with session_factory=(callable)."
  | sessionNotCreated => "Session not yet created. Ensure __aenter__ was called."
  | unitNotInitialised cause => "Failed to initialize UoW: " ++ inside cause cause.message
  | sessionNotClosed cause => "Failed to close session: " ++ inside cause cause.message
  | rollbackFailed cause => "Failed to rollback transaction: " ++ inside cause cause.message
  | notConnected => "Not connected; call connect() first"
  | engineNotCreated cause => "Failed to create engine: " ++ inside cause cause.message
  | pingFailed cause => "Database ping failed: " ++ inside cause cause.message
  | raised .connection arguments => ForeignFailure.firstLine (argumentText arguments)
  | raised _ arguments => argumentText arguments
  | unsupportedCondition label => "Unsupported condition kind: " ++ label
  | missingOperand => "tuple index out of range"
  | constantOperand =>
    "Only '=', '!=', 'is_()', 'is_not()', 'is_distinct_from()', 'is_not_distinct_from()' " ++
      "operators can be used with None/True/False"
  -- What follows in the original text shows where the record lies in memory.
  | recordOperand => "SQL expression element or literal value expected"
  | lengthRequired table column =>
    "(in table '" ++ table ++ "', column '" ++ column ++
      "'): VARCHAR requires a length on dialect mysql"
  | quotientTooLarge => "integer division result too large for a float"
  | unknownAttribute name model =>
    Text.quoted name ++ " is an invalid keyword argument for " ++ model
  | unexpectedField spec field =>
    spec ++ " got an unexpected filter field " ++ Text.quoted field
  | repeatedArgument operation argument =>
    operation ++ "() got multiple values for argument '" ++ argument ++ "'"
  | invalidCondition value => value.literal ++ " is not a valid ConditionKind"
  | inconsistentBases bases =>
    "Cannot create a consistent method resolution\norder (MRO) for bases " ++
      Value.commaSeparated bases
  | duplicateBase base => "duplicate base class " ++ base
  | missingAttribute owner name =>
    "'" ++ owner ++ "' object has no attribute '" ++ name ++ "'"
  | missingClassAttribute owner name =>
    "type object '" ++ owner ++ "' has no attribute '" ++ name ++ "'"
  | notCallable typeName => "'" ++ typeName ++ "' object is not callable"
  | missingModule name => "No module named '" ++ name ++ "'"
  | store failure => failure.message
  | foreign failure => failure.message

def cause? : Failure → Option Failure
  | unitNotInitialised cause => some cause
  | sessionNotClosed cause => some cause
  | rollbackFailed cause => some cause
  | engineNotCreated cause => some cause
  | pingFailed cause => some cause
  | _ => none

/-- Whether handlers of ordinary failures see the failure; an interruption passes them. -/
def isOrdinary : Failure → Bool
  | foreign failure => failure.kind != .interruption
  | _ => true

def isFromStore : Failure → Bool
  | store .integerTooLarge => false
  | store _ => true
  | constantOperand => true
  | recordOperand => true
  | lengthRequired .. => true
  | foreign failure => failure.kind == .store
  | _ => false

def isFromSystem : Failure → Bool
  | foreign failure => failure.kind == .system
  | _ => false

def isMissingModule : Failure → Bool
  | missingModule _ => true
  | foreign failure => failure.kind == .module
  | _ => false

def isValueFailure : Failure → Bool
  | unsupportedCondition _ => true
  | invalidCondition _ => true
  | foreign failure => failure.kind == .value
  | _ => false

def isFromUnit (failure : Failure) : Bool :=
  failure.category? == some .session || failure.category? == some .unitOfWork

def generalNames : List String := ["Exception", "BaseException", "object"]

/-- The classes of a failure of the library, the special ones first. A filter failure also
belongs to the general class of its kind. -/
def ancestors (failure : Failure) : List String :=
  let own := match failure with
    | raised .. => []
    | _ => [failure.typeName]
  let chain := (failure.category?.map Category.chain).getD []
  let extra := match failure with
    | filterType .. => ["TypeError"]
    | unknownColumn .. => ["AttributeError"]
    | _ => []
  own ++ chain.map Category.name ++ extra ++ generalNames

def attributes : Failure → List (String × Value)
  | notNew record => [("record", record)]
  | stillNew record => [("record", record)]
  | filterType field kind _ value => [("field", .text field), ("kind", .text kind), ("value", value)]
  | unknownColumn model column => [("model", .text model), ("column", .text column)]
  | recordNotFound model id => [("record_type", .text model), ("record_id", id)]
  | _ => []

end Failure
end RecordStore
