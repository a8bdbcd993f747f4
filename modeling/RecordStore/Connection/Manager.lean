import RecordStore.Config.Pool
import RecordStore.Connection.TimeZone
import RecordStore.Journal

/-!
The manager of a database connection. It makes an engine and keeps it only if the database answers
a ping; closing disposes of the engine. Every new connection is put into the configured time zone.
-/

namespace RecordStore

structure ZoneSetting where
  statement : String
  outside : Bool
  deriving DecidableEq, Repr

structure ManagedEngine (Engine : Type) where
  engine : Engine
  zone : Option ZoneSetting

structure EngineOps (State Engine : Type) where
  create : Config → List (String × OptionValue) → Action State Engine
  /-- Opens a connection, before anything ran on it. -/
  connect : Engine → Action State Unit
  connection : ConnectionOps State
  ping : Action State Unit
  release : Action State Unit
  dispose : Engine → Action State Unit
  note : JournalRecord → Action State Unit

structure SessionFactory (Engine : Type) where
  boundTo : Engine
  expireOnCommit : Bool

structure Manager (Engine : Type) where
  config : Config
  extraOptions : List (String × OptionValue)
  current : Option (ManagedEngine Engine)
  factory : Option (SessionFactory Engine)

structure Managed (State Engine : Type) where
  manager : Manager Engine
  outer : State

namespace Manager

variable {State Engine α : Type}

def outside (action : Action State α) : Action (Managed State Engine) α :=
  action.onPart Managed.outer fun outer managed => ⟨managed.manager, outer⟩

theorem run_outside (action : Action State α) (managed : Managed State Engine) :
    (outside action).run managed =
      ((action.run managed.outer).1, ⟨managed.manager, (action.run managed.outer).2⟩) := rfl

def self : Action (Managed State Engine) (Manager Engine) := do
  pure (← Action.get).manager

theorem run_self (managed : Managed State Engine) :
    self.run managed = (.ok managed.manager, managed) := rfl

def setCurrent (engine : Option (ManagedEngine Engine)) : Action (Managed State Engine) Unit :=
  Action.modify fun managed => ⟨{ managed.manager with current := engine }, managed.outer⟩

def setFactory (factory : Option (SessionFactory Engine)) : Action (Managed State Engine) Unit :=
  Action.modify fun managed => ⟨{ managed.manager with factory }, managed.outer⟩

/-- The options of the engine; those that a caller adds count before the configured ones. -/
def options (manager : Manager Engine) : List (String × OptionValue) :=
  let configured := manager.config.engineOptions.entries.filter fun entry =>
    (manager.extraOptions.lookup entry.1).isNone
  configured ++ manager.extraOptions

/-- The time zone of the connections. PostgreSQL undoes the setting with its transaction. -/
def zone (config : Config) : Option ZoneSetting :=
  config.timeZoneStatement?.map fun statement => ⟨statement, config.adapter = .postgres⟩

def probe (ops : EngineOps State Engine) (engine : ManagedEngine Engine) : Action State Unit := do
  ops.connect engine.engine
  match engine.zone with
  | some zone => ops.connection.setTimeZone zone.statement zone.outside
  | none => pure ()
  Action.ensuring ops.ping ops.release

def isCreationFailure (failure : Failure) : Bool :=
  failure.isFromStore || failure.isMissingModule || failure.isValueFailure

def isPingFailure (failure : Failure) : Bool := failure.isFromStore || failure.isFromSystem

def createEngine (ops : EngineOps State Engine) (manager : Manager Engine) :
    Action State (ManagedEngine Engine) := do
  let engine ← Action.handle (ops.create manager.config manager.options) fun failure =>
    .fail (if isCreationFailure failure then .engineNotCreated failure else failure)
  pure ⟨engine, zone manager.config⟩

def checkEngine (ops : EngineOps State Engine) (engine : ManagedEngine Engine) :
    Action State Unit :=
  Action.handle (probe ops engine) fun failure =>
    if isPingFailure failure then do
      ops.dispose engine.engine
      .fail (.pingFailed failure)
    else .fail failure

def connectedRecord (config : Config) : JournalRecord :=
  ⟨.info, .engine, "Connected to " ++ config.adapter.name ++ " database " ++
    Text.quoted config.database⟩

def connect (ops : EngineOps State Engine) : Action (Managed State Engine) Unit := do
  let manager ← self
  match manager.current with
  | some _ => pure ()
  | none =>
    let engine ← outside (createEngine ops manager)
    outside (checkEngine ops engine)
    setCurrent (some engine)
    setFactory (some ⟨engine.engine, false⟩)
    outside (ops.note (connectedRecord manager.config))

def close (ops : EngineOps State Engine) : Action (Managed State Engine) Unit := do
  match (← self).current with
  | none => pure ()
  | some engine =>
    outside (ops.dispose engine.engine)
    setCurrent none
    setFactory none
    outside (ops.note ⟨.info, .engine, "Database connection closed"⟩)

def healthCheck (ops : EngineOps State Engine) : Action (Managed State Engine) Bool := do
  match (← self).current with
  | none => pure false
  | some engine =>
    outside (Action.handle (do probe ops engine; pure true) fun failure =>
      if isPingFailure failure then do
        ops.note ⟨.warning, .engine, "Database health check failed"⟩
        pure false
      else .fail failure)

def engine : Action (Managed State Engine) Engine := do
  match (← self).current with
  | some engine => pure engine.engine
  | none => .fail .notConnected

def sessionFactory : Action (Managed State Engine) (SessionFactory Engine) := do
  match (← self).factory with
  | some factory => pure factory
  | none => .fail .notConnected

end Manager
end RecordStore
