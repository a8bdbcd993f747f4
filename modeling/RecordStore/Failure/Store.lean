/-!
Failures of the record store itself.
-/

namespace RecordStore

inductive StoreFailure where
  | notNull (table column : String)
  | notUnique (table column : String)
  /-- An identifier that is no integer. -/
  | datatypeMismatch
  | integerTooLarge
  | unsupportedBinding (position : Nat) (typeName : String)
  /-- A value that the column's type cannot take. -/
  | unsuitableValue (typeName reason : String)
  /-- A use of a session whose transaction an earlier failure has ended. -/
  | rolledBack (first : StoreFailure) (duringQuery : Bool)
  /-- Reading an attribute that has to be loaded first. -/
  | unloadedAttribute
  /-- Reading an attribute that has to be loaded first, without a session to load it. -/
  | detachedRecord (model : String)
  /-- A changed record whose row is gone. -/
  | staleUpdate (table : String)
  /-- A record whose row is gone. -/
  | missingRow (model : String)
  /-- A record whose row is gone when it is read again. -/
  | notRefreshed (model : String)
  /-- A deleted record that is added again. -/
  | deletedRecord (model : String)
  /-- A record that is added to a second session. -/
  | attachedElsewhere (model : String)
  /-- A record that is added to a session that knows another one of its identity. -/
  | identityPresent (model : String)
  /-- An identity of more or fewer values than one. -/
  | identityCount (table : String)
  /-- A criterion that names no attribute of the model. -/
  | unknownProperty (name model table : String)
  | unableToOpen
  deriving DecidableEq, Repr, Inhabited

namespace StoreFailure

def typeName : StoreFailure → String
  | notNull .. => "IntegrityError"
  | notUnique .. => "IntegrityError"
  | datatypeMismatch => "IntegrityError"
  | integerTooLarge => "OverflowError"
  | unsupportedBinding .. => "ProgrammingError"
  | unsuitableValue .. => "StatementError"
  | rolledBack .. => "PendingRollbackError"
  | unloadedAttribute => "MissingGreenlet"
  | detachedRecord _ => "DetachedInstanceError"
  | staleUpdate _ => "StaleDataError"
  | missingRow _ => "ObjectDeletedError"
  | notRefreshed _ => "InvalidRequestError"
  | deletedRecord _ => "InvalidRequestError"
  | attachedElsewhere _ => "InvalidRequestError"
  | identityPresent _ => "InvalidRequestError"
  | identityCount _ => "InvalidRequestError"
  | unknownProperty .. => "InvalidRequestError"
  | unableToOpen => "OperationalError"

def isDriverFailure : StoreFailure → Bool
  | notNull .. => true
  | notUnique .. => true
  | datatypeMismatch => true
  | unsupportedBinding .. => true
  | unableToOpen => true
  | _ => false

def isStatementFailure : StoreFailure → Bool
  | unsuitableValue .. => true
  | failure => failure.isDriverFailure

def duringQueryRemark : String :=
  "(raised as a result of Query-invoked autoflush; consider using a session.no_autoflush block " ++
    "if this flush is occurring prematurely)"

/-- The text of a failure inside another one's, given its own text: a driver's failure is told
with its name. -/
def inside (failure : StoreFailure) (text : String) : String :=
  if failure.isDriverFailure then "(sqlite3." ++ failure.typeName ++ ") " ++ text
  else match failure with
    | unsuitableValue typeName _ => "(builtins." ++ typeName ++ ") " ++ text
    | _ => text

def message : StoreFailure → String
  | notNull table column => "NOT NULL constraint failed: " ++ table ++ "." ++ column
  | notUnique table column => "UNIQUE constraint failed: " ++ table ++ "." ++ column
  | datatypeMismatch => "datatype mismatch"
  | integerTooLarge => "Python int too large to convert to SQLite INTEGER"
  | unsupportedBinding position typeName =>
    "Error binding parameter " ++ toString position ++ ": type '" ++ typeName ++
      "' is not supported"
  | unsuitableValue _ reason => reason
  | rolledBack first duringQuery =>
    "This Session's transaction has been rolled back due to a previous exception during flush. " ++
      "To begin a new transaction with this Session, first issue Session.rollback(). " ++
      "Original exception was: " ++
      (if duringQuery && first.isStatementFailure then duringQueryRemark
       else inside first first.message)
  | unloadedAttribute =>
    "greenlet_spawn has not been called; can't call await_only() here. " ++
      "Was IO attempted in an unexpected place?"
  | detachedRecord model =>
    "Instance <" ++ model ++ "> is not bound to a Session; attribute refresh operation cannot proceed"
  | staleUpdate table =>
    "UPDATE statement on table '" ++ table ++ "' expected to update 1 row(s); 0 were matched."
  | missingRow model =>
    "Instance '<" ++ model ++ ">' has been deleted, or its row is otherwise not present."
  | notRefreshed model => "Could not refresh instance '<" ++ model ++ ">'"
  | deletedRecord model =>
    "Instance '<" ++ model ++ ">' has been deleted.  Use the make_transient() function to send " ++
      "this object back to the transient state."
  | attachedElsewhere model => "Object '<" ++ model ++ ">' is already attached to another session"
  | identityPresent model =>
    "Can't attach instance <" ++ model ++ ">; another instance with its key is already present " ++
      "in this session."
  | identityCount table =>
    "Incorrect number of values in identifier to formulate primary key for session.get(); " ++
      "primary key columns are '" ++ table ++ ".id'"
  | unknownProperty name model table =>
    "None of the FROM clause entities have a property \"" ++ name ++ "\". Searched entities: " ++
      "Mapper[" ++ model ++ "(" ++ table ++ ")]"
  | unableToOpen => "unable to open database file"

def fullText (failure : StoreFailure) : String := failure.inside failure.message

end StoreFailure
end RecordStore
