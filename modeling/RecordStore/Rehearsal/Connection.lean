import RecordStore.Connection.Manager
import RecordStore.Rehearsal.Script

/-!
Connections and engines that play a script. A call that fails changes nothing.
-/

namespace RecordStore.Rehearsal

structure ConnectionState where
  script : Script
  autocommit : Bool
  /-- How many engines were made. -/
  engines : Nat
  deriving Inhabited

def scripted {α : Type} (action : Action Script α) : Action ConnectionState α :=
  action.onPart ConnectionState.script fun script state => { state with script }

def truthText (value : Bool) : String := if value then "true" else "false"

def connection : ConnectionOps ConnectionState where
  autocommit := do
    scripted (Script.play "get_autocommit" "get_autocommit")
    pure (← Action.get).autocommit
  setAutocommit value := do
    scripted (Script.play "set_autocommit" ("set_autocommit=" ++ truthText value))
    Action.modify fun state => { state with autocommit := value }
  openCursor := scripted (Script.play "cursor" "cursor")
  execute statement := scripted (Script.play "cursor.execute" ("cursor.execute " ++ statement))
  closeCursor := scripted (Script.play "cursor.close" "cursor.close")

def engines (describe : Config → List (String × OptionValue) → String) :
    EngineOps ConnectionState Nat where
  create config options := do
    scripted (Script.play "create_engine" ("create_engine " ++ describe config options))
    let state ← Action.get
    Action.modify fun state => { state with engines := state.engines + 1 }
    pure state.engines
  connect _ := do
    scripted (Script.play "connect" "connect")
    Action.modify fun state => { state with autocommit := false }
  connection := connection
  ping := scripted (Script.play "execute" "execute SELECT 1")
  release := scripted (Script.play "release" "release")
  dispose _ := scripted (Script.play "dispose" "dispose")
  note record := scripted (Script.note record)

end RecordStore.Rehearsal
