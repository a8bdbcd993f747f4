import RecordStore.Connection.Manager

/-!
Engines in this process. Only databases in memory or in a file can be reached; the drivers of the
others are not installed.
-/

namespace RecordStore.LocalEngine

structure State where
  opened : List String
  journal : List JournalRecord

def openDirectories : List String := ["", "/tmp", ".", "/", "/dev", "/var/tmp", "/root"]

def directory (path : String) : String :=
  let letters := path.toList.reverse.dropWhile fun letter => letter ≠ '/'
  match letters.drop 1 with
  | [] => if letters.isEmpty then "" else "/"
  | rest => String.ofList rest.reverse

def canOpen (database : String) : Bool :=
  database.isEmpty || database = ":memory:" || openDirectories.contains (directory database)

def missingDriver? : Adapter → Option String
  | .mysql => some "aiomysql"
  | .postgres => some "asyncpg"
  | .sqlite => none

def create (config : Config) (_ : List (String × OptionValue)) : Action State Nat := do
  match missingDriver? config.adapter with
  | some driver => .fail (.missingModule driver)
  | none =>
    let state ← Action.get
    Action.modify fun state => { state with opened := state.opened ++ [config.database] }
    pure state.opened.length

def connect (engine : Nat) : Action State Unit := do
  let state ← Action.get
  if canOpen ((state.opened[engine]?).getD "") then pure ()
  else .fail (.store .unableToOpen)

def connection : ConnectionOps State where
  autocommit := pure false
  setAutocommit _ := pure ()
  openCursor := pure ()
  execute _ := pure ()
  closeCursor := pure ()

def ops : EngineOps State Nat where
  create := create
  connect := connect
  connection := connection
  ping := pure ()
  release := pure ()
  dispose _ := pure ()
  note record := Action.modify fun state => { state with journal := state.journal ++ [record] }

end RecordStore.LocalEngine
