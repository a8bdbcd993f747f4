import RecordStore.Connection.Local
import RecordStore.Proofs.CountedEngines

/-!
The life of engines under a manager. Whatever comes of each call, the manager holds an engine together with
a factory of its sessions or neither of them, and every engine that was ever made is the one that is held
or was disposed of exactly once.
-/

namespace RecordStore

inductive ManagerCall where
  | connect
  | close
  | healthCheck
  deriving DecidableEq, Repr

def ManagerCall.after {State Engine : Type} (ops : EngineOps State Engine)
    (managed : Managed State Engine) : ManagerCall → Managed State Engine
  | connect => ((Manager.connect ops).run managed).2
  | close => ((Manager.close ops).run managed).2
  | healthCheck => ((Manager.healthCheck ops).run managed).2

namespace Manager

section Lifetimes

variable {State Engine : Type} {ops : EngineOps State Engine}
  {managed : Managed (Counted State) (Numbered Engine)}

def uncalled (config : Config) (extraOptions : List (String × OptionValue)) (outer : State) :
    Managed (Counted State) (Numbered Engine) :=
  ⟨⟨config, extraOptions, none, none⟩, ⟨0, [], outer⟩⟩

def Disconnected (managed : Managed (Counted State) (Numbered Engine)) : Prop :=
  managed.manager.current = none ∧ managed.manager.factory = none

def heldNumber? (managed : Managed (Counted State) (Numbered Engine)) : Option Nat :=
  managed.manager.current.map fun current => current.engine.number

/-- What every call keeps: the factory is one for the engine that is held, and this engine and those
disposed of are together the engines that were made, each of them once. -/
structure Settled (managed : Managed (Counted State) (Numbered Engine)) : Prop where
  linked : managed.manager.factory =
    managed.manager.current.map fun current => ⟨current.engine, false⟩
  accounted : ((heldNumber? managed).toList ++ managed.outer.disposed).Perm
    (List.range managed.outer.made)

theorem settled_uncalled (config : Config) (extraOptions : List (String × OptionValue))
    (outer : State) :
    Settled (uncalled config extraOptions outer : Managed (Counted State) (Numbered Engine)) :=
  ⟨rfl, .refl _⟩

theorem Settled.of_same {after : Managed (Counted State) (Numbered Engine)}
    (settled : Settled managed) (same : after.manager = managed.manager)
    (made : after.outer.made = managed.outer.made)
    (disposed : after.outer.disposed = managed.outer.disposed) : Settled after := by
  refine ⟨same ▸ settled.linked, ?_⟩
  rw [heldNumber?, same, made, disposed]
  exact settled.accounted

theorem Settled.disconnected (settled : Settled managed)
    (missing : managed.manager.current = none) : Disconnected managed := by
  refine ⟨missing, ?_⟩
  rw [settled.linked, missing]
  rfl

theorem Settled.disposed_perm (settled : Settled managed)
    (missing : managed.manager.current = none) :
    managed.outer.disposed.Perm (List.range managed.outer.made) := by
  have accounted := settled.accounted
  rwa [heldNumber?, missing] at accounted

theorem Settled.connects (settled : Settled managed) (missing : managed.manager.current = none)
    {outcome : Except Failure Unit} {after : Managed (Counted State) (Numbered Engine)}
    (connects : Connects ops managed outcome after) : Settled after := by
  have disposed := settled.disposed_perm missing
  cases connects with
  | refused failure outer => exact settled.of_same rfl rfl rfl
  | unanswered failure outer =>
      refine ⟨settled.linked, ?_⟩
      rw [heldNumber?, missing, List.range_succ]
      exact disposed.append_right _
  | connected engine zone outer =>
      refine ⟨rfl, ?_⟩
      rw [List.range_succ]
      exact (disposed.cons _).trans (List.perm_append_singleton _ _).symm

theorem Settled.closed (settled : Settled managed) {engine : ManagedEngine (Numbered Engine)}
    (held : managed.manager.current = some engine) (outer : State) :
    Settled ⟨managed.manager.released,
      ⟨managed.outer.made, managed.outer.disposed ++ [engine.engine.number], outer⟩⟩ := by
  refine ⟨rfl, ?_⟩
  have accounted := settled.accounted
  rw [heldNumber?, held] at accounted
  exact (List.perm_append_singleton _ _).trans accounted

theorem Settled.after (fails : ops.FailsAsEngines) (settled : Settled managed) (call : ManagerCall) :
    Settled (call.after ops.counted managed) := by
  cases held : managed.manager.current with
  | none =>
      cases call with
      | connect =>
          obtain ⟨outcome, after, ran, connects⟩ := exists_connects fails held
          rw [ManagerCall.after, ran]
          exact settled.connects held connects
      | close => rwa [ManagerCall.after, run_close_disconnected held]
      | healthCheck => rwa [ManagerCall.after, run_healthCheck_disconnected held]
  | some engine =>
      cases call with
      | connect => rwa [ManagerCall.after, run_connect_connected held]
      | close =>
          obtain ⟨outer, ran⟩ := run_close_connected fails held
          rw [ManagerCall.after, ran]
          exact settled.closed held outer
      | healthCheck =>
          obtain ⟨answers, outer, ran, _⟩ := run_healthCheck_connected fails held
          rw [ManagerCall.after, ran]
          exact settled.of_same rfl rfl rfl

theorem Settled.run (fails : ops.FailsAsEngines) (settled : Settled managed)
    (calls : List ManagerCall) : Settled (calls.foldl (ManagerCall.after ops.counted) managed) := by
  induction calls generalizing managed with
  | nil => exact settled
  | cons call calls ih => exact ih (settled.after fails call)

structure Dependable (ops : EngineOps State Engine)
    (now : Managed (Counted State) (Numbered Engine)) : Prop where
  /-- The engine and the factory of its sessions are both available, or both are refused. -/
  together : (∃ current, engine.run now = (.ok current, now) ∧
      sessionFactory.run now = (.ok ⟨current, false⟩, now)) ∨
    ∃ failure : Failure, failure.category? = some .connection ∧
      engine.run now = (.error failure, now) ∧ sessionFactory.run now = (.error failure, now)
  /-- Connecting that fails tells a failure of the connection and leaves the manager disconnected. -/
  failed : ∀ failure after, (connect ops.counted).run now = (.error failure, after) →
    failure.category? = some .connection ∧ Disconnected after
  /-- A disconnected manager connects whenever an engine can be made and its database answers. -/
  retried : Disconnected now → ∀ made middle last,
    (ops.create now.manager.config now.manager.options).run now.outer.outer = (.ok made, middle) →
    (probe ops ⟨made, zone now.manager.config⟩).run middle = (.ok (), last) →
    ∃ after, (connect ops.counted).run now = (.ok (), after) ∧
      engine.run after = (.ok ⟨now.outer.made, made⟩, after)
  /-- Connecting again does nothing, neither to the manager nor to its surroundings. -/
  idle : ¬ Disconnected now → (connect ops.counted).run now = (.ok (), now)
  /-- A check never fails. It keeps the manager and the engines as they are, and is true exactly if an
  engine is held and its database answers. -/
  checked : ∃ answers after, (healthCheck ops.counted).run now = (.ok answers, after) ∧
    after.manager = now.manager ∧ after.outer.made = now.outer.made ∧
    after.outer.disposed = now.outer.disposed ∧
    (answers = true ↔ ∃ current, now.manager.current = some current ∧
      ((probe ops ⟨current.engine.engine, current.zone⟩).run now.outer.outer).1 = .ok ())
  /-- Every engine that was made is the one that is held, or was disposed of exactly once. -/
  accounted : ∀ number < now.outer.made,
    (heldNumber? now = some number ∧ now.outer.disposed.count number = 0) ∨
      (heldNumber? now ≠ some number ∧ now.outer.disposed.count number = 1)

theorem run_engine (managed : Managed (Counted State) (Numbered Engine)) :
    engine.run managed = (match managed.manager.current with
      | some current => .ok current.engine
      | none => .error .notConnected, managed) := by
  rw [engine, Action.run_bind_ok (run_self managed)]
  cases managed.manager.current <;> rfl

theorem run_sessionFactory (managed : Managed (Counted State) (Numbered Engine)) :
    sessionFactory.run managed = (match managed.manager.factory with
      | some factory => .ok factory
      | none => .error .notConnected, managed) := by
  rw [sessionFactory, Action.run_bind_ok (run_self managed)]
  cases managed.manager.factory <;> rfl

theorem Settled.count (settled : Settled managed) {number : Nat} (made : number < managed.outer.made) :
    (heldNumber? managed = some number ∧ managed.outer.disposed.count number = 0) ∨
      (heldNumber? managed ≠ some number ∧ managed.outer.disposed.count number = 1) := by
  have once := settled.accounted.count_eq number
  rw [List.count_append, List.count_range, if_pos made] at once
  cases held : heldNumber? managed with
  | none =>
      rw [held, Option.toList_none, List.count_nil] at once
      exact .inr ⟨nofun, by omega⟩
  | some other =>
      rw [held, Option.toList_some, List.count_singleton] at once
      by_cases same : other = number
      · rw [if_pos (beq_iff_eq.mpr same)] at once
        exact .inl ⟨congrArg some same, by omega⟩
      · rw [if_neg (mt beq_iff_eq.mp same)] at once
        exact .inr ⟨mt Option.some.inj same, by omega⟩

theorem Settled.together (settled : Settled managed) :
    (∃ current, engine.run managed = (.ok current, managed) ∧
      sessionFactory.run managed = (.ok ⟨current, false⟩, managed)) ∨
    ∃ failure : Failure, failure.category? = some .connection ∧
      engine.run managed = (.error failure, managed) ∧
      sessionFactory.run managed = (.error failure, managed) := by
  rw [run_engine, run_sessionFactory, settled.linked]
  cases managed.manager.current with
  | none => exact .inr ⟨.notConnected, rfl, rfl, rfl⟩
  | some current => exact .inl ⟨current.engine, rfl, rfl⟩

theorem Settled.dependable (fails : ops.FailsAsEngines) (settled : Settled managed) :
    Dependable ops managed where
  together := settled.together
  failed := by
    intro failure after ran
    cases held : managed.manager.current with
    | some current => cases (run_connect_connected held).symm.trans ran
    | none =>
        obtain ⟨outcome, last, ended, connects⟩ := exists_connects fails held
        obtain ⟨rfl, rfl⟩ := Prod.mk.inj (ended.symm.trans ran)
        have told := settled.connects held connects
        cases connects with
        | refused cause outer => exact ⟨rfl, told.disconnected held⟩
        | unanswered cause outer => exact ⟨rfl, told.disconnected held⟩
  retried := by
    intro missing made middle last created answered
    obtain ⟨outer, ran⟩ := run_connect_answered fails missing.1 created answered
    exact ⟨_, ran, run_engine _⟩
  idle := by
    intro connected
    cases held : managed.manager.current with
    | none => exact absurd (settled.disconnected held) connected
    | some current => exact run_connect_connected held
  checked := by
    cases held : managed.manager.current with
    | none =>
        exact ⟨false, managed, run_healthCheck_disconnected held, rfl, rfl, rfl, by simp⟩
    | some current =>
        obtain ⟨answers, outer, ran, answered⟩ := run_healthCheck_connected fails held
        refine ⟨answers, _, ran, rfl, rfl, rfl, answered.trans ?_⟩
        simp
  accounted := fun _ made => settled.count made

/-- Whatever calls are made of a manager, and whatever comes of the engines that they ask for: it holds an
engine and a factory of its sessions or neither, a connecting that fails leaves it as one that was never
connected, connecting again and checking change nothing, and every engine that was made is the one that is
held or was disposed of exactly once. -/
theorem engines_are_held_or_disposed_of_once (fails : ops.FailsAsEngines) (config : Config)
    (extraOptions : List (String × OptionValue)) (outer : State) (calls : List ManagerCall) :
    Dependable ops
      (calls.foldl (ManagerCall.after ops.counted) (uncalled config extraOptions outer)) :=
  ((settled_uncalled config extraOptions outer).run fails calls).dependable fails

end Lifetimes

theorem failsAsEngines_local : LocalEngine.ops.FailsAsEngines where
  create config options state failure refused := by
    cases driver : LocalEngine.missingDriver? config.adapter with
    | none =>
        have made : ((LocalEngine.create config options).run state).1 = .ok state.opened.length := by
          rw [LocalEngine.create, driver]
          rfl
        cases made.symm.trans refused
    | some name =>
        have missing : ((LocalEngine.create config options).run state).1 =
            .error (.missingModule name) := by
          rw [LocalEngine.create, driver]
          rfl
        obtain rfl := Except.error.inj (missing.symm.trans refused)
        exact .inr (.inl rfl)
  probe engine state failure unanswered := by
    obtain ⟨engine, zone⟩ := engine
    by_cases opens : LocalEngine.canOpen ((state.opened[engine]?).getD "") = true
    · have opened : (LocalEngine.ops.connect engine).run state = (.ok (), state) := by
        show (LocalEngine.connect engine).run state = _
        rw [LocalEngine.connect, Action.run_bind_ok (Action.run_get state), if_pos opens]
        rfl
      have answered : ((probe LocalEngine.ops ⟨engine, zone⟩).run state).1 = .ok () := by
        rw [probe, Action.run_bind_ok opened]
        rcases zone with _ | ⟨statement, _ | _⟩ <;> rfl
      cases answered.symm.trans unanswered
    · have closed : (LocalEngine.ops.connect engine).run state =
          (.error (.store .unableToOpen), state) := by
        show (LocalEngine.connect engine).run state = _
        rw [LocalEngine.connect, Action.run_bind_ok (Action.run_get state), if_neg opens]
        rfl
      rw [probe, Action.run_bind_error closed] at unanswered
      obtain rfl := Except.error.inj unanswered
      exact .inl rfl
  dispose _ _ := rfl
  note _ _ := rfl

def inMemory : Config :=
  ⟨.sqlite, "localhost", none, none, none, "", "UTC", 0, 5, 10, none, false⟩

/-- The first of the two engines was disposed of when the manager was closed. -/
theorem second_engine_in_memory_is_held :
    LocalEngine.ops.FailsAsEngines ∧
      let now := [ManagerCall.connect, .connect, .close, .healthCheck, .connect].foldl
        (ManagerCall.after LocalEngine.ops.counted) (uncalled inMemory [] ⟨[], []⟩)
      Dependable LocalEngine.ops now ∧ now.outer.made = 2 ∧ heldNumber? now = some 1 ∧
        now.outer.disposed = [0] := by
  refine ⟨failsAsEngines_local, ?_, rfl, rfl, rfl⟩
  exact engines_are_held_or_disposed_of_once failsAsEngines_local inMemory [] ⟨[], []⟩
    [.connect, .connect, .close, .healthCheck, .connect]

end Manager
end RecordStore
