import RecordStore.Failure.Basic

/-!
Actions: steps that read and change a state and may fail. What an action changed before it failed
stays changed, so that the handlers around it see it.
-/

namespace RecordStore

/-- A step on a state: an outcome and the state after it, which a failure has too. -/
def Action (State α : Type) : Type := State → Except Failure α × State

namespace Action

variable {State α β : Type}

def run (action : Action State α) (state : State) : Except Failure α × State := action state

def done (value : α) : Action State α := fun state => (.ok value, state)

def fail (failure : Failure) : Action State α := fun state => (.error failure, state)

def andThen (action : Action State α) (next : α → Action State β) : Action State β := fun state =>
  match action state with
  | (.ok value, after) => next value after
  | (.error failure, after) => (.error failure, after)

instance : Monad (Action State) where
  pure := done
  bind := andThen

def get : Action State State := fun state => (.ok state, state)

def modify (change : State → State) : Action State Unit := fun state => (.ok (), change state)

def ofOutcome (outcome : Except Failure α) : Action State α := fun state => (outcome, state)

def ofStore (outcome : Except StoreFailure α) : Action State α :=
  ofOutcome (outcome.mapError .store)

def attempt (action : Action State α) : Action State (Except Failure α) := fun state =>
  match action state with
  | (outcome, after) => (.ok outcome, after)

def handle (action : Action State α) (handler : Failure → Action State α) : Action State α :=
  fun state =>
    match action state with
    | (.ok value, after) => (.ok value, after)
    | (.error failure, after) => handler failure after

/-- Runs an action and then another in any case; a failure of the second replaces the outcome of
the first. -/
def ensuring (action : Action State α) (cleanup : Action State Unit) : Action State α :=
  fun state =>
    match action state with
    | (outcome, after) =>
      match cleanup after with
      | (.ok _, last) => (outcome, last)
      | (.error failure, last) => (.error failure, last)

def onPart {Whole : Type} (part : Whole → State) (replace : State → Whole → Whole)
    (action : Action State α) : Action Whole α := fun whole =>
  match action (part whole) with
  | (outcome, after) => (outcome, replace after whole)

@[simp] theorem run_pure (value : α) (state : State) :
    (pure value : Action State α).run state = (.ok value, state) := rfl

@[simp] theorem run_fail (failure : Failure) (state : State) :
    (fail failure : Action State α).run state = (.error failure, state) := rfl

theorem run_bind (action : Action State α) (next : α → Action State β) (state : State) :
    (action >>= next).run state =
      match action.run state with
      | (.ok value, after) => (next value).run after
      | (.error failure, after) => (.error failure, after) := rfl

theorem run_attempt (action : Action State α) (state : State) :
    action.attempt.run state = (.ok (action.run state).1, (action.run state).2) := rfl

theorem run_handle (action : Action State α) (handler : Failure → Action State α) (state : State) :
    (action.handle handler).run state =
      match action.run state with
      | (.ok value, after) => (.ok value, after)
      | (.error failure, after) => (handler failure).run after := rfl

theorem run_ensuring (action : Action State α) (cleanup : Action State Unit) (state : State) :
    (action.ensuring cleanup).run state =
      match cleanup.run (action.run state).2 with
      | (.ok _, last) => ((action.run state).1, last)
      | (.error failure, last) => (.error failure, last) := rfl

end Action
end RecordStore
