import RecordStore.Rehearsal.Script
import RecordStore.UnitOfWork.Basic

/-!
Sessions that play a script. A session has a flag that says whether a transaction is open.
-/

namespace RecordStore.Rehearsal

structure SessionState where
  script : Script
  flags : List Bool
  /-- The flag of a new session. -/
  initial : Bool
  deriving Inhabited

namespace SessionState

def scripted {α : Type} (action : Action Script α) : Action SessionState α :=
  action.onPart SessionState.script fun script state => { state with script }

def label (session : Nat) : String := "s" ++ toString (session + 1)

def add : Action SessionState Nat := do
  let state ← Action.get
  Action.modify fun state => { state with flags := state.flags ++ [state.initial] }
  pure state.flags.length

def setOpen (session : Nat) (value : Bool) : Action SessionState Unit :=
  Action.modify fun state => { state with flags := state.flags.set session value }

def isOpen (state : SessionState) (session : Nat) : Bool := (state.flags[session]?).getD false

def play (session : Nat) (method : String) : Action SessionState Unit :=
  scripted (Script.play method (label session ++ "." ++ method))

def ops : SessionOps SessionState Nat where
  factory := do
    scripted (Script.play "factory" "factory")
    add
  inTransaction session := do
    let value := (← Action.get).isOpen session
    scripted (Script.play "in_transaction"
      (label session ++ ".in_transaction=" ++ (if value then "true" else "false")))
    pure value
  begin session := do
    play session "begin"
    setOpen session true
  commit session := do
    play session "commit"
    setOpen session false
  rollback session := do
    play session "rollback"
    setOpen session false
  close session := play session "close"
  note record := scripted (Script.note record)

end SessionState
end RecordStore.Rehearsal
