import RecordStore.Config.Basic

/-!
The options of an engine: whether it echoes its statements, and for databases behind a network the
size of its pool and the protection of its connections.
-/

namespace RecordStore

inductive Encryption where
  | mode (name : String)
  | context (checksHost verifies : Bool)
  deriving DecidableEq, Repr

structure PoolOptions where
  size : Nat
  overflow : Nat
  recycle : Option Nat
  encryption : Option Encryption
  deriving DecidableEq, Repr

/-- The options of an engine; a database in a file has no pool. -/
structure EngineOptions where
  echo : Bool
  pool : Option PoolOptions
  deriving DecidableEq, Repr

namespace Config

def encryption? (config : Config) : Option Encryption :=
  match config.ssl with
  | none => none
  | some mode =>
    if mode = "" ∨ mode = "disable" then none
    else match config.adapter with
      | .mysql =>
        let verifies : Bool := mode != "skip-verify"
        some (.context verifies verifies)
      | _ => some (.mode mode)

def pool (config : Config) : PoolOptions where
  size := config.idleConnections
  overflow := config.openConnections - config.idleConnections
  recycle := if 0 < config.maxLifetime then some config.maxLifetime else none
  encryption := config.encryption?

def engineOptions (config : Config) : EngineOptions :=
  ⟨config.logMode, if config.adapter = .sqlite then none else some config.pool⟩

end Config

inductive OptionValue where
  | plain (value : Value)
  | encryption (encryption : Encryption)
  /-- The arguments of a single connection. -/
  | connection (encryption : Encryption)

namespace EngineOptions

def entries (options : EngineOptions) : List (String × OptionValue) :=
  let echo := ("echo", OptionValue.plain (.boolean options.echo))
  match options.pool with
  | none => [echo]
  | some pool =>
    let recycle := pool.recycle.toList.map fun (seconds : Nat) =>
      ("pool_recycle", OptionValue.plain (.integer seconds))
    let encryption := pool.encryption.toList.map fun encryption =>
      ("connect_args", OptionValue.connection encryption)
    [echo, ("pool_pre_ping", .plain (.boolean true)), ("pool_size", .plain (.integer pool.size)),
      ("max_overflow", .plain (.integer pool.overflow))] ++ recycle ++ encryption

end EngineOptions
end RecordStore
