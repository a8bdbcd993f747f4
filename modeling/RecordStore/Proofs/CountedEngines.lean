import RecordStore.Connection.Manager
import RecordStore.Proofs.Outcome

/-!
What managers ask of engines. Engines of any behaviour are numbered as they are made, and the numbers of
those that were disposed of are kept. Connecting, closing and checking each come out in a few ways, by
what came of the engine that was asked.
-/

namespace RecordStore

structure Numbered (Engine : Type) where
  number : Nat
  engine : Engine

structure Counted (State : Type) where
  made : Nat
  disposed : List Nat
  outer : State

section Counting

variable {State Engine α β : Type}

def beside (action : Action State α) : Action (Counted State) α :=
  action.onPart Counted.outer fun outer state => ⟨state.made, state.disposed, outer⟩

theorem run_beside (action : Action State α) (state : Counted State) :
    (beside action).run state =
      ((action.run state.outer).1, ⟨state.made, state.disposed, (action.run state.outer).2⟩) := rfl

def ConnectionOps.counted (ops : ConnectionOps State) : ConnectionOps (Counted State) where
  autocommit := beside ops.autocommit
  setAutocommit value := beside (ops.setAutocommit value)
  openCursor := beside ops.openCursor
  execute statement := beside (ops.execute statement)
  closeCursor := beside ops.closeCursor

/-- Engines of which each is numbered when it is made, and told by its number when it is disposed of. -/
def EngineOps.counted (ops : EngineOps State Engine) :
    EngineOps (Counted State) (Numbered Engine) where
  create config options := do
    let engine ← beside (ops.create config options)
    let state ← Action.get
    Action.modify fun state => { state with made := state.made + 1 }
    pure ⟨state.made, engine⟩
  connect engine := beside (ops.connect engine.engine)
  connection := ops.connection.counted
  ping := beside ops.ping
  release := beside ops.release
  dispose engine := do
    beside (ops.dispose engine.engine)
    Action.modify fun state => { state with disposed := state.disposed ++ [engine.number] }
  note record := beside (ops.note record)

theorem beside_bind (action : Action State α) (next : α → Action State β) :
    (beside action >>= fun value => beside (next value)) = beside (action >>= next) := by
  funext state
  show (beside action >>= fun value => beside (next value)).run state =
    (beside (action >>= next)).run state
  rw [Action.run_bind, run_beside, run_beside (action >>= next), Action.run_bind]
  cases action.run state.outer with
  | mk outcome after => cases outcome <;> rfl

theorem beside_ensuring (action : Action State α) (cleanup : Action State Unit) :
    (beside action).ensuring (beside cleanup) = beside (action.ensuring cleanup) := by
  funext state
  show ((beside action).ensuring (beside cleanup)).run state =
    (beside (action.ensuring cleanup)).run state
  rw [Action.run_ensuring, run_beside, run_beside, run_beside, Action.run_ensuring]
  cases cleanup.run (action.run state.outer).2 with
  | mk outcome after => cases outcome <;> rfl

theorem runStatement_counted (ops : ConnectionOps State) (statement : String) :
    ops.counted.runStatement statement = beside (ops.runStatement statement) := by
  show (beside ops.openCursor >>= fun _ =>
    (beside (ops.execute statement)).ensuring (beside ops.closeCursor)) = _
  rw [beside_ensuring, beside_bind]
  rfl

theorem setTimeZone_counted (ops : ConnectionOps State) (statement : String) (outside : Bool) :
    ops.counted.setTimeZone statement outside = beside (ops.setTimeZone statement outside) := by
  cases outside with
  | false => exact runStatement_counted ops statement
  | true =>
      show (beside ops.autocommit >>= fun existing => beside (ops.setAutocommit true) >>= fun _ =>
        (ops.counted.runStatement statement).ensuring (beside (ops.setAutocommit existing))) = _
      simp only [runStatement_counted, beside_ensuring, beside_bind]
      rfl

end Counting

namespace Manager

variable {State Engine : Type}

theorem probe_counted (ops : EngineOps State Engine) (engine : Numbered Engine)
    (zone : Option ZoneSetting) :
    probe ops.counted ⟨engine, zone⟩ = beside (probe ops ⟨engine.engine, zone⟩) := by
  cases zone with
  | none =>
      show (beside (ops.connect engine.engine) >>= fun _ =>
        (beside ops.ping).ensuring (beside ops.release)) = _
      rw [beside_ensuring, beside_bind]
      rfl
  | some zone =>
      show (beside (ops.connect engine.engine) >>= fun _ =>
        ops.counted.connection.setTimeZone zone.statement zone.outside >>= fun _ =>
          (beside ops.ping).ensuring (beside ops.release)) = _
      have counted : ops.counted.connection.setTimeZone zone.statement zone.outside =
          beside (ops.connection.setTimeZone zone.statement zone.outside) :=
        setTimeZone_counted ops.connection zone.statement zone.outside
      rw [counted, beside_ensuring, beside_bind, beside_bind]
      rfl

end Manager

/-- Engines that fail as engines do: a creation for the store, a missing module or a value, the probing of a
connection for the store or the system. Disposing of an engine and writing to the log do not fail. -/
structure EngineOps.FailsAsEngines {State Engine : Type} (ops : EngineOps State Engine) : Prop where
  create : ∀ config options state failure,
    ((ops.create config options).run state).1 = .error failure →
      failure.isFromStore = true ∨ failure.isMissingModule = true ∨ failure.isValueFailure = true
  probe : ∀ engine state failure, ((Manager.probe ops engine).run state).1 = .error failure →
    failure.isFromStore = true ∨ failure.isFromSystem = true
  dispose : ∀ engine state, ((ops.dispose engine).run state).1 = .ok ()
  note : ∀ record state, ((ops.note record).run state).1 = .ok ()

section Failing

variable {State Engine : Type} {ops : EngineOps State Engine} {failure : Failure} {state after : State}

theorem EngineOps.FailsAsEngines.isCreationFailure (fails : ops.FailsAsEngines) {config : Config}
    {options : List (String × OptionValue)}
    (refused : (ops.create config options).run state = (.error failure, after)) :
    Manager.isCreationFailure failure = true := by
  have kind := fails.create config options state failure (congrArg Prod.fst refused)
  simpa only [Manager.isCreationFailure, Bool.or_eq_true, or_assoc] using kind

theorem EngineOps.FailsAsEngines.isPingFailure (fails : ops.FailsAsEngines)
    {engine : ManagedEngine Engine}
    (unanswered : (Manager.probe ops engine).run state = (.error failure, after)) :
    Manager.isPingFailure failure = true := by
  have kind := fails.probe engine state failure (congrArg Prod.fst unanswered)
  simpa only [Manager.isPingFailure, Bool.or_eq_true] using kind

end Failing

namespace Manager

section Runs

variable {State Engine : Type} {ops : EngineOps State Engine}
  {managed : Managed (Counted State) (Numbered Engine)}

theorem run_connect_connected {ops : EngineOps State Engine} {managed : Managed State Engine}
    {engine : ManagedEngine Engine} (connected : managed.manager.current = some engine) :
    (connect ops).run managed = (.ok (), managed) := by
  rw [connect, Action.run_bind_ok (run_self managed)]
  simp only [connected, Action.run_pure]

theorem run_note (fails : ops.FailsAsEngines) (record : JournalRecord) (state : Counted State) :
    ∃ outer, (ops.counted.note record).run state =
      (.ok (), ⟨state.made, state.disposed, outer⟩) :=
  ⟨_, Prod.ext (fails.note record state.outer) rfl⟩

theorem run_dispose (fails : ops.FailsAsEngines) (engine : Numbered Engine) (state : Counted State) :
    ∃ outer, (ops.counted.dispose engine).run state =
      (.ok (), ⟨state.made, state.disposed ++ [engine.number], outer⟩) := by
  refine ⟨((ops.dispose engine.engine).run state.outer).2, ?_⟩
  show (beside (ops.dispose engine.engine) >>= fun _ => _).run state = _
  rw [Action.run_bind, run_beside, fails.dispose]
  rfl

theorem run_createEngine_ok {manager : Manager (Numbered Engine)} {state : Counted State}
    {engine : Engine} {after : State}
    (created : (ops.create manager.config manager.options).run state.outer = (.ok engine, after)) :
    (createEngine ops.counted manager).run state =
      (.ok ⟨⟨state.made, engine⟩, zone manager.config⟩, ⟨state.made + 1, state.disposed, after⟩) := by
  have made : (ops.counted.create manager.config manager.options).run state =
      (.ok ⟨state.made, engine⟩, ⟨state.made + 1, state.disposed, after⟩) := by
    show (beside (ops.create manager.config manager.options) >>= fun _ => _).run state = _
    rw [Action.run_bind, run_beside, created]
    rfl
  rw [createEngine, Action.run_bind, Action.run_handle, made]
  rfl

theorem run_createEngine_error (fails : ops.FailsAsEngines) {manager : Manager (Numbered Engine)}
    {state : Counted State} {failure : Failure} {after : State}
    (refused : (ops.create manager.config manager.options).run state.outer = (.error failure, after)) :
    (createEngine ops.counted manager).run state =
      (.error (.engineNotCreated failure), ⟨state.made, state.disposed, after⟩) := by
  have unmade : (ops.counted.create manager.config manager.options).run state =
      (.error failure, ⟨state.made, state.disposed, after⟩) := by
    show (beside (ops.create manager.config manager.options) >>= fun _ => _).run state = _
    rw [Action.run_bind, run_beside, refused]
  rw [createEngine, Action.run_bind, Action.run_handle, unmade]
  simp only [fails.isCreationFailure refused, if_true, Action.run_fail]

theorem run_probe {engine : Numbered Engine} {zone : Option ZoneSetting} {state : Counted State}
    {outcome : Except Failure Unit} {after : State}
    (probed : (probe ops ⟨engine.engine, zone⟩).run state.outer = (outcome, after)) :
    (probe ops.counted ⟨engine, zone⟩).run state =
      (outcome, ⟨state.made, state.disposed, after⟩) := by
  rw [probe_counted, run_beside, probed]

theorem run_checkEngine_error (fails : ops.FailsAsEngines) {engine : Numbered Engine}
    {zone : Option ZoneSetting} {state : Counted State} {failure : Failure} {after : State}
    (unanswered : (probe ops ⟨engine.engine, zone⟩).run state.outer = (.error failure, after)) :
    ∃ outer, (checkEngine ops.counted ⟨engine, zone⟩).run state =
      (.error (.pingFailed failure), ⟨state.made, state.disposed ++ [engine.number], outer⟩) := by
  obtain ⟨outer, disposed⟩ := run_dispose fails engine ⟨state.made, state.disposed, after⟩
  refine ⟨outer, ?_⟩
  rw [checkEngine, Action.run_handle, run_probe unanswered]
  simp only [fails.isPingFailure unanswered, if_true, Action.run_bind, disposed, Action.run_fail]

def holding (manager : Manager Engine) (engine : ManagedEngine Engine) : Manager Engine :=
  { manager with current := some engine, factory := some ⟨engine.engine, false⟩ }

def released (manager : Manager Engine) : Manager Engine :=
  { manager with current := none, factory := none }

inductive Connects (ops : EngineOps State Engine) (managed : Managed (Counted State) (Numbered Engine)) :
    Except Failure Unit → Managed (Counted State) (Numbered Engine) → Prop
  /-- No engine was made. -/
  | refused (failure : Failure) (outer : State) :
      Connects ops managed (.error (.engineNotCreated failure))
        ⟨managed.manager, ⟨managed.outer.made, managed.outer.disposed, outer⟩⟩
  /-- An engine was made and disposed of again. -/
  | unanswered (failure : Failure) (outer : State) :
      Connects ops managed (.error (.pingFailed failure))
        ⟨managed.manager, ⟨managed.outer.made + 1, managed.outer.disposed ++ [managed.outer.made], outer⟩⟩
  | connected (engine : Engine) (zone : Option ZoneSetting) (outer : State) :
      Connects ops managed (.ok ())
        ⟨managed.manager.holding ⟨⟨managed.outer.made, engine⟩, zone⟩,
          ⟨managed.outer.made + 1, managed.outer.disposed, outer⟩⟩

def keepEngine (ops : EngineOps State Engine) (config : Config) (engine : ManagedEngine Engine) :
    Action (Managed State Engine) Unit := do
  outside (checkEngine ops engine)
  setCurrent (some engine)
  setFactory (some ⟨engine.engine, false⟩)
  outside (ops.note (connectedRecord config))

theorem run_connect_disconnected {ops : EngineOps State Engine} {managed : Managed State Engine}
    (disconnected : managed.manager.current = none) : (connect ops).run managed =
      (outside (createEngine ops managed.manager) >>= keepEngine ops managed.manager.config).run
        managed := by
  rw [connect, Action.run_bind_ok (run_self managed)]
  simp only [disconnected]
  rfl

theorem run_connect_answered (fails : ops.FailsAsEngines) (disconnected : managed.manager.current = none)
    {engine : Engine} {middle last : State}
    (created : (ops.create managed.manager.config managed.manager.options).run managed.outer.outer =
      (.ok engine, middle))
    (answered : (probe ops ⟨engine, zone managed.manager.config⟩).run middle = (.ok (), last)) :
    ∃ outer, (connect ops.counted).run managed =
      (.ok (), ⟨managed.manager.holding ⟨⟨managed.outer.made, engine⟩, zone managed.manager.config⟩,
        ⟨managed.outer.made + 1, managed.outer.disposed, outer⟩⟩) := by
  have made := run_createEngine_ok created
  have checked : (checkEngine ops.counted
      ⟨⟨managed.outer.made, engine⟩, zone managed.manager.config⟩).run
        ⟨managed.outer.made + 1, managed.outer.disposed, middle⟩ =
      (.ok (), ⟨managed.outer.made + 1, managed.outer.disposed, last⟩) := by
    rw [checkEngine, Action.run_handle, run_probe answered]
  obtain ⟨outer, noted⟩ := run_note fails (connectedRecord managed.manager.config)
    ⟨managed.outer.made + 1, managed.outer.disposed, last⟩
  refine ⟨outer, ?_⟩
  rw [run_connect_disconnected disconnected, Action.run_bind, run_outside, made]
  show (keepEngine _ _ _).run _ = _
  rw [keepEngine, Action.run_bind, run_outside, checked]
  show (outside (ops.counted.note _)).run
    ⟨managed.manager.holding ⟨⟨managed.outer.made, engine⟩, zone managed.manager.config⟩, _⟩ = _
  rw [run_outside, noted]

theorem exists_connects (fails : ops.FailsAsEngines) (disconnected : managed.manager.current = none) :
    ∃ outcome after, (connect ops.counted).run managed = (outcome, after) ∧
      Connects ops managed outcome after := by
  cases created : (ops.create managed.manager.config managed.manager.options).run
    managed.outer.outer with
  | mk outcome middle =>
      cases outcome with
      | error failure =>
          refine ⟨_, _, ?_, .refused failure middle⟩
          rw [run_connect_disconnected disconnected, Action.run_bind, run_outside,
            run_createEngine_error fails created]
      | ok engine =>
          cases probed : (probe ops ⟨engine, zone managed.manager.config⟩).run middle with
          | mk outcome last =>
              cases outcome with
              | error failure =>
                  obtain ⟨outer, checked⟩ := @run_checkEngine_error State Engine ops fails
                    ⟨managed.outer.made, engine⟩ (zone managed.manager.config)
                    ⟨managed.outer.made + 1, managed.outer.disposed, middle⟩ failure last probed
                  refine ⟨_, _, ?_, .unanswered failure outer⟩
                  rw [run_connect_disconnected disconnected, Action.run_bind, run_outside,
                    run_createEngine_ok created]
                  show (keepEngine _ _ _).run _ = _
                  rw [keepEngine, Action.run_bind, run_outside, checked]
              | ok answer =>
                  obtain ⟨outer, ran⟩ := run_connect_answered fails disconnected created probed
                  exact ⟨_, _, ran, .connected engine _ outer⟩

theorem run_close_disconnected {ops : EngineOps State Engine} {managed : Managed State Engine}
    (disconnected : managed.manager.current = none) : (close ops).run managed = (.ok (), managed) := by
  rw [close, Action.run_bind_ok (run_self managed)]
  simp only [disconnected, Action.run_pure]

theorem run_close_connected (fails : ops.FailsAsEngines)
    {engine : ManagedEngine (Numbered Engine)} (connected : managed.manager.current = some engine) :
    ∃ outer, (close ops.counted).run managed =
      (.ok (), ⟨managed.manager.released,
        ⟨managed.outer.made, managed.outer.disposed ++ [engine.engine.number], outer⟩⟩) := by
  obtain ⟨middle, disposed⟩ := run_dispose fails engine.engine managed.outer
  obtain ⟨outer, noted⟩ := run_note fails ⟨.info, .engine, "Database connection closed"⟩
    ⟨managed.outer.made, managed.outer.disposed ++ [engine.engine.number], middle⟩
  refine ⟨outer, ?_⟩
  rw [close, Action.run_bind_ok (run_self managed)]
  simp only [connected]
  rw [Action.run_bind, run_outside, disposed]
  show (outside (ops.counted.note _)).run ⟨managed.manager.released, _⟩ = _
  rw [run_outside, noted]

theorem run_healthCheck_disconnected {ops : EngineOps State Engine} {managed : Managed State Engine}
    (disconnected : managed.manager.current = none) :
    (healthCheck ops).run managed = (.ok false, managed) := by
  rw [healthCheck, Action.run_bind_ok (run_self managed)]
  simp only [disconnected, Action.run_pure]

theorem run_healthCheck_connected (fails : ops.FailsAsEngines) {engine : Numbered Engine}
    {zone : Option ZoneSetting} (connected : managed.manager.current = some ⟨engine, zone⟩) :
    ∃ answers outer, (healthCheck ops.counted).run managed =
        (.ok answers, ⟨managed.manager, ⟨managed.outer.made, managed.outer.disposed, outer⟩⟩) ∧
      (answers = true ↔
        ((probe ops ⟨engine.engine, zone⟩).run managed.outer.outer).1 = .ok ()) := by
  rw [healthCheck, Action.run_bind_ok (run_self managed)]
  simp only [connected]
  rw [run_outside, Action.run_handle, Action.run_bind]
  cases probed : (probe ops ⟨engine.engine, zone⟩).run managed.outer.outer with
  | mk outcome after =>
      rw [run_probe probed]
      cases outcome with
      | ok answer => exact ⟨true, after, rfl, by simp⟩
      | error failure =>
          obtain ⟨outer, noted⟩ := run_note fails
            ⟨.warning, .engine, "Database health check failed"⟩
            ⟨managed.outer.made, managed.outer.disposed, after⟩
          refine ⟨false, outer, ?_, by simp⟩
          simp only [fails.isPingFailure probed, if_true, Action.run_bind, noted, Action.run_pure]

end Runs
end Manager
end RecordStore
