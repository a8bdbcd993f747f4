import RecordStore.Action

/-!
Putting a fresh connection into a time zone. Where the database undoes the setting when its
transaction is rolled back, the statement runs outside any transaction; the mode of the connection
is restored in any case.
-/

namespace RecordStore

structure ConnectionOps (State : Type) where
  autocommit : Action State Bool
  setAutocommit : Bool → Action State Unit
  openCursor : Action State Unit
  execute : String → Action State Unit
  closeCursor : Action State Unit

namespace ConnectionOps

variable {State : Type}

def runStatement (ops : ConnectionOps State) (statement : String) : Action State Unit := do
  ops.openCursor
  Action.ensuring (ops.execute statement) ops.closeCursor

def setTimeZone (ops : ConnectionOps State) (statement : String) (outside : Bool) :
    Action State Unit :=
  if outside then do
    let existing ← ops.autocommit
    ops.setAutocommit true
    Action.ensuring (ops.runStatement statement) (ops.setAutocommit existing)
  else ops.runStatement statement

end ConnectionOps
end RecordStore
