import RecordStore.Proofs.WatchedSessions
import RecordStore.Rehearsal.Session

/-!
The protocol of units of work. Whatever sessions do, a block that was entered ends its transaction in one
of two ways and then closes the session that its unit made. A block that could not be entered leaves such
a session open.
-/

namespace RecordStore
namespace UnitOfWork

variable {State Session α : Type}

def block (ops : SessionOps State Session) (work : UnitOfWork Session → Action State α) :
    Action (InUnit State Session) α :=
  around ops (do
    outside (work (← self)))

def failureOf (outcome : Except Failure α) : Option Failure :=
  match outcome with
  | .ok _ => none
  | .error failure => some failure

section Forms

variable {session : Session} {needed owns : Bool} {call : Except Failure Unit → SessionCall Session}
  {outcome told : Except Failure Unit} {ended : Option Failure} {calls : List (SessionCall Session)}

theorem AsksFirst.all {Holds : SessionCall Session → Prop}
    (asks : AsksFirst session needed call outcome calls)
    (asked : ∀ answer, Holds (.ask session answer)) (called : ∀ outcome, Holds (call outcome)) :
    ∀ made ∈ calls, Holds made := by
  cases asks with
  | refused failure => exact List.forall_mem_singleton.mpr (asked _)
  | idle => exact List.forall_mem_singleton.mpr (asked _)
  | acts outcome =>
      exact List.forall_mem_cons.mpr ⟨asked _, List.forall_mem_singleton.mpr (called _)⟩

theorem AsksFirst.asked (asks : AsksFirst session needed call outcome calls) :
    ∃ answer, .ask session answer ∈ calls := by
  cases asks with
  | refused failure => exact ⟨_, List.mem_cons_self⟩
  | idle => exact ⟨_, List.mem_cons_self⟩
  | acts outcome => exact ⟨_, List.mem_cons_self⟩

theorem RollsBack.reaches_iff (rolls : RollsBack session outcome calls) :
    (∃ result, .rollback session result ∈ calls) ↔ .ask session (.ok true) ∈ calls := by
  cases rolls with
  | refused failure => simp
  | idle => simp
  | acts outcome => simp

/-- What a session that is left is called for, by whether the body returned. -/
structure LeavingCalls (owns : Bool) (session : Session) (returned : Bool)
    (calls : List (SessionCall Session)) : Prop where
  /-- No other session is called. -/
  own : ∀ call ∈ calls, call.session? = some session
  commits : calls.countP SessionCall.isCommit = if returned then 1 else 0
  /-- A rollback, which starts with the question for an open transaction, follows a body that failed
  or a commit that failed. -/
  attempts : (∃ answer, .ask session answer ∈ calls) ↔ returned = false ∨
    ∃ failure : Failure, failure.isOrdinary = true ∧ .commit session (.error failure) ∈ calls
  reaches : (∃ result, .rollback session result ∈ calls) ↔ .ask session (.ok true) ∈ calls
  closes : calls.countP SessionCall.isClose = if owns then 1 else 0

theorem RollsBack.leavingCalls (rolls : RollsBack session outcome calls) :
    LeavingCalls false session false calls where
  own := rolls.all (fun _ => rfl) fun _ => rfl
  commits := List.countP_eq_zero.mpr (rolls.all (fun _ => Bool.false_ne_true) fun _ => Bool.false_ne_true)
  attempts := iff_of_true rolls.asked (.inl rfl)
  reaches := rolls.reaches_iff
  closes := List.countP_eq_zero.mpr (rolls.all (fun _ => Bool.false_ne_true) fun _ => Bool.false_ne_true)

theorem Finishes.leavingCalls (finishes : Finishes session ended told calls) :
    LeavingCalls false session ended.isNone calls := by
  cases finishes with
  | committed => constructor <;> simp [SessionCall.session?, SessionCall.isCommit, SessionCall.isClose]
  | interrupted passes =>
      constructor <;> simp [SessionCall.session?, SessionCall.isCommit, SessionCall.isClose, passes]
  | undone failure rolls => exact rolls.leavingCalls
  | @uncommitted failure outcome calls ordinary rolls =>
      have rolling := rolls.leavingCalls
      refine ⟨?_, ?_, ?_, ?_, ?_⟩
      · exact List.forall_mem_cons.mpr ⟨rfl, rolling.own⟩
      · rw [List.countP_cons_of_pos rfl, rolling.commits]
        rfl
      · obtain ⟨answer, asked⟩ := rolls.asked
        exact iff_of_true ⟨answer, List.mem_cons_of_mem _ asked⟩
          (.inr ⟨failure, ordinary, List.mem_cons_self⟩)
      · simpa using rolling.reaches
      · rw [List.countP_cons_of_neg Bool.false_ne_true, rolling.closes]

theorem Leaves.leavingCalls (leaves : Leaves session ended owns told calls) :
    LeavingCalls owns session ended.isNone calls := by
  cases leaves with
  | keeps finishes => exact finishes.leavingCalls
  | closes finishes closing =>
      have finishing := finishes.leavingCalls
      refine ⟨?_, ?_, ?_, ?_, ?_⟩
      · exact List.forall_mem_append.mpr ⟨finishing.own, List.forall_mem_singleton.mpr rfl⟩
      · rw [List.countP_append, finishing.commits]
        rfl
      · simpa using finishing.attempts
      · simpa using finishing.reaches
      · rw [List.countP_append, finishing.closes]
        rfl

theorem Leaves.committed (leaves : Leaves session none owns (.ok ()) calls) :
    .commit session (.ok ()) ∈ calls := by
  have finished {calls : List (SessionCall Session)} (finishes : Finishes session none (.ok ()) calls) :
      .commit session (.ok ()) ∈ calls := by
    generalize same : (Except.ok () : Except Failure Unit) = told at finishes
    cases finishes with
    | committed => exact List.mem_cons_self
    | interrupted passes => cases same
    | @uncommitted failure outcome calls ordinary rolls =>
        cases outcome with
        | error cause => cases same
        | ok done => cases same
  generalize same : (Except.ok () : Except Failure Unit) = told at leaves
  cases leaves with
  | keeps finishes =>
      subst same
      exact finished finishes
  | @closes told calls finishes closing =>
      cases closing with
      | error failure => cases same
      | ok done =>
          obtain rfl : Except.ok () = told := same
          exact List.mem_append_left _ (finished finishes)

structure EnteringCalls (source : Option Session) (session : Session)
    (calls : List (SessionCall Session)) : Prop where
  given : ∀ given ∈ source, session = given
  makes : calls.countP SessionCall.isMake = if source.isNone then 1 else 0
  made : source = none → .make (.ok session) ∈ calls
  closes : calls.countP SessionCall.isClose = 0

theorem Opens.none (opens : Opens session outcome calls) (counts : SessionCall Session → Bool)
    (asks : ∀ answer, counts (.ask session answer) = false)
    (begins : ∀ outcome, counts (.begin session outcome) = false) : calls.countP counts = 0 :=
  List.countP_eq_zero.mpr (opens.all
    (fun answer => Bool.eq_false_iff.mp (asks answer)) fun outcome => Bool.eq_false_iff.mp (begins outcome))

end Forms

section Blocks

variable {ops : SessionOps State Session} {source : Option Session}
  {start entered : InUnit (Watched State Session) Session}

def Serves (source : Option Session) (unit : UnitOfWork Session) : Prop :=
  unit.ownsSession = source.isNone ∧ ∀ given ∈ source, unit.session = some given

theorem serves_ofSources {hasFactory : Bool} {unit : UnitOfWork Session}
    (made : ofSources source hasFactory = .ok unit) : Serves source unit := by
  cases source with
  | none =>
      cases hasFactory with
      | true =>
          obtain rfl := Except.ok.inj made
          exact ⟨rfl, fun given none => nomatch none⟩
      | false => cases made
  | some session =>
      cases hasFactory with
      | true => cases made
      | false =>
          obtain rfl := Except.ok.inj made
          exact ⟨rfl, fun given same => same⟩

theorem entering_of_ok (serves : Serves source start.unit)
    (enters : (enter ops.watched).run start = (.ok (), entered)) : ∃ session calls,
    entered.unit = ⟨source.isNone, some session⟩ ∧
      entered.outer.calls = start.outer.calls ++ calls ∧ EnteringCalls source session calls := by
  obtain ⟨⟨owns, held⟩, state⟩ := start
  obtain ⟨rfl, holds⟩ := serves
  cases source with
  | none =>
      obtain ⟨outer, ⟨failure, fails⟩ | ⟨session, outcome, calls, ran, opens⟩⟩ :=
        run_enter_own ops held state
      · cases fails.symm.trans enters
      · obtain ⟨_, rfl⟩ := Prod.mk.inj (ran.symm.trans enters)
        refine ⟨session, _, rfl, rfl, fun given none => (nomatch none), ?_,
          fun _ => List.mem_cons_self, ?_⟩
        · rw [List.countP_cons_of_pos rfl, opens.none _ (fun _ => rfl) fun _ => rfl]
          rfl
        · rw [List.countP_cons_of_neg Bool.false_ne_true, opens.none _ (fun _ => rfl) fun _ => rfl]
  | some given =>
      obtain rfl : held = some given := holds given rfl
      obtain ⟨outcome, calls, outer, ran, opens⟩ := run_enter_given ops given state
      obtain ⟨_, rfl⟩ := Prod.mk.inj (ran.symm.trans enters)
      refine ⟨given, calls, rfl, rfl, fun other same => Option.some.inj same, ?_,
        fun absent => (nomatch absent), opens.none _ (fun _ => rfl) fun _ => rfl⟩
      exact opens.none _ (fun _ => rfl) fun _ => rfl

theorem serves_enter (serves : Serves source start.unit) :
    Serves source ((enter ops.watched).run start).2.unit := by
  obtain ⟨⟨owns, held⟩, state⟩ := start
  obtain ⟨rfl, holds⟩ := serves
  cases source with
  | none =>
      obtain ⟨outer, ⟨failure, fails⟩ | ⟨session, outcome, calls, ran, opens⟩⟩ :=
        run_enter_own ops held state
      · rw [Option.isNone_none, fails]
        exact ⟨rfl, fun given none => nomatch none⟩
      · rw [Option.isNone_none, ran]
        exact ⟨rfl, fun given none => nomatch none⟩
  | some given =>
      obtain rfl : held = some given := holds given rfl
      obtain ⟨outcome, calls, outer, ran, opens⟩ := run_enter_given ops given state
      rw [Option.isNone_some, ran]
      exact ⟨rfl, fun other same => same⟩

theorem run_block_error {failure : Failure}
    (refused : (enter ops.watched).run start = (.error failure, entered))
    (work : UnitOfWork Session → Action (Watched State Session) α) :
    (block ops.watched work).run start = (.error failure, entered) :=
  Action.run_bind_error refused _

theorem run_block (notes : ops.NotesAlways) {owns : Bool} {session : Session}
    {state : Watched State Session}
    (enters : (enter ops.watched).run start = (.ok (), ⟨⟨owns, some session⟩, state⟩))
    (work : UnitOfWork Session → Action (Watched State Session) α) :
    let worked := (work ⟨owns, some session⟩).run state
    ∃ told calls outer, (block ops.watched work).run start =
        (told >>= fun _ => worked.1,
          ⟨⟨owns, if owns then none else some session⟩, ⟨worked.2.calls ++ calls, outer⟩⟩) ∧
      Leaves session (failureOf worked.1) owns told calls := by
  intro worked
  obtain ⟨told, calls, outer, left, leaves⟩ :=
    run_leave_watched ops notes owns session (failureOf worked.1) worked.2
  refine ⟨told, calls, outer, ?_, leaves⟩
  have attempted : (do
      outside (work (← self)) : Action (InUnit (Watched State Session) Session) α).attempt.run
        ⟨⟨owns, some session⟩, state⟩ = (.ok worked.1, ⟨⟨owns, some session⟩, worked.2⟩) := rfl
  rw [block, around, Action.run_bind_ok enters, Action.run_bind_ok attempted]
  cases ended : worked.1 with
  | ok value =>
      rw [ended] at left
      simp only [failureOf] at left
      simp only
      rw [Action.run_bind, left]
      cases told with
      | error failure => rfl
      | ok done => rfl
  | error failure =>
      rw [ended] at left
      simp only [failureOf] at left
      simp only
      rw [Action.run_bind, left]
      cases told with
      | error failure => rfl
      | ok done => rfl

theorem serves_block (notes : ops.NotesAlways) (serves : Serves source start.unit)
    (work : UnitOfWork Session → Action (Watched State Session) α) :
    Serves source ((block ops.watched work).run start).2.unit := by
  have kept : Serves source ((enter ops.watched).run start).2.unit := serves_enter serves
  cases enters : (enter ops.watched).run start with
  | mk outcome entered =>
      rw [enters] at kept
      cases outcome with
      | error failure =>
          rw [run_block_error enters]
          exact kept
      | ok done =>
          obtain ⟨session, _, unit, _, form⟩ := entering_of_ok serves enters
          obtain ⟨_, state⟩ := entered
          obtain rfl := unit
          obtain ⟨_, _, _, ran, _⟩ := run_block notes enters work
          rw [ran]
          cases source with
          | none => exact ⟨rfl, fun given none => nomatch none⟩
          | some given => exact ⟨rfl, fun other same => form.given other same ▸ rfl⟩

/-- What can be reached with a unit by blocks, one after the other, and other work between them. -/
inductive Reaches (ops : SessionOps State Session) (start : InUnit (Watched State Session) Session) :
    InUnit (Watched State Session) Session → Prop
  | start : Reaches ops start start
  | block {β : Type} {state : InUnit (Watched State Session) Session}
      (reached : Reaches ops start state)
      (work : UnitOfWork Session → Action (Watched State Session) β) :
      Reaches ops start ((UnitOfWork.block ops.watched work).run state).2
  | outside {β : Type} {state : InUnit (Watched State Session) Session}
      (reached : Reaches ops start state) (work : Action (Watched State Session) β) :
      Reaches ops start ((UnitOfWork.outside work).run state).2

theorem Reaches.serves (notes : ops.NotesAlways) (serves : Serves source start.unit)
    {state : InUnit (Watched State Session) Session} (reached : Reaches ops start state) :
    Serves source state.unit := by
  induction reached with
  | start => exact serves
  | block reached work ih => exact serves_block notes ih work
  | outside reached work ih => exact ih

def onSession (task : Session → Action State α) (unit : UnitOfWork Session) : Action State α :=
  match unit.session with
  | some session => task session
  | none => .fail .sessionNotCreated

theorem withinTransaction_eq (ops : SessionOps State Session) (task : Session → Action State α) :
    withinTransaction ops task = inside selfManaged (block ops (onSession task)) := by
  have same : (do outside (task (← currentSession)) : Action (InUnit State Session) α) =
      (do outside (onSession task (← self))) := by
    funext state
    obtain ⟨⟨owns, held⟩, outer⟩ := state
    cases held with
    | none => rfl
    | some session => rfl
  rw [withinTransaction, block, same]

end Blocks

section Protocol

variable {ops : SessionOps State Session} {source : Option Session} {unit : UnitOfWork Session}
  {hasFactory : Bool} {first : Watched State Session}
  {start entered : InUnit (Watched State Session) Session}

/-- The protocol of units of work, whatever the calls to sessions return or raise, and after any number
of blocks of the same unit. Entering a block makes a session if none is given, and closes none. Leaving
it commits exactly once if the work returned and never if it failed, attempts a rollback after a failure
of the work or of the commit and only then, and lets it reach the session exactly if the session tells of
an open transaction. A session that was made is closed exactly once, and the unit holds none after that;
a given session is never closed and stays. A block succeeds only if the commit did, and so does a task on
a session made for it, whose result is told. -/
theorem entered_blocks_follow_the_protocol (notes : ops.NotesAlways)
    (made : ofSources source hasFactory = .ok unit) (reached : Reaches ops ⟨unit, first⟩ start)
    (enters : (enter ops.watched).run start = (.ok (), entered))
    (work : UnitOfWork Session → Action (Watched State Session) α) :
    let worked := (work entered.unit).run entered.outer
    let ended := (block ops.watched work).run start
    (∃ session opened left,
      entered.unit = ⟨source.isNone, some session⟩ ∧
      entered.outer.calls = start.outer.calls ++ opened ∧ EnteringCalls source session opened ∧
      ended.2.outer.calls = worked.2.calls ++ left ∧
      LeavingCalls source.isNone session (failureOf worked.1).isNone left ∧
      (currentSession.run ended.2).1 =
        (if source.isNone then .error .sessionNotCreated else .ok session) ∧
      ∀ value, ended.1 = .ok value → worked.1 = .ok value ∧ .commit session (.ok ()) ∈ left) ∧
    ∀ (task : Session → Action (Watched State Session) α) (outer : Watched State Session) value after,
      (withinTransaction ops.watched task).run outer = (.ok value, after) →
      ∃ session before inside left, (task session).run before = (.ok value, inside) ∧
        after.calls = inside.calls ++ left ∧ LeavingCalls true session true left ∧
        .commit session (.ok ()) ∈ left := by
  -- A block that succeeds left with success, which takes a commit that succeeded.
  have succeeds {owns : Bool} {session : Session} {worked : Except Failure α}
      {told : Except Failure Unit} {left : List (SessionCall Session)} {value : α}
      (leaves : Leaves session (failureOf worked) owns told left)
      (returns : (told >>= fun _ => worked) = .ok value) :
      worked = .ok value ∧ .commit session (.ok ()) ∈ left := by
    obtain ⟨_, rfl, rfl⟩ := bind_eq_ok_iff.mp returns
    exact ⟨rfl, leaves.committed⟩
  intro worked ended
  refine ⟨?_, fun task outer value after ran => ?_⟩
  · have serves := reached.serves notes (serves_ofSources made)
    obtain ⟨session, opened, held, calls, form⟩ := entering_of_ok serves enters
    obtain ⟨_, state⟩ := entered
    obtain rfl := held
    obtain ⟨told, left, last, ran, leaves⟩ := run_block notes enters work
    have same : ended = _ := ran
    refine ⟨session, opened, left, rfl, calls, form, ?_, leaves.leavingCalls, ?_, fun value returns => ?_⟩
    · rw [same]
    · rw [same]
      cases source with
      | none => rfl
      | some given => rfl
    · rw [same] at returns
      exact succeeds leaves returns
  · rw [withinTransaction_eq, run_inside] at ran
    obtain ⟨returns, rfl⟩ := Prod.mk.inj ran
    have serves : Serves none (selfManaged : UnitOfWork Session) := ⟨rfl, fun given none => nomatch none⟩
    cases enters : (enter ops.watched).run ⟨selfManaged, outer⟩ with
    | mk outcome entered =>
        cases outcome with
        | error failure =>
            rw [run_block_error enters] at returns
            cases returns
        | ok done =>
            have own : Serves none (⟨selfManaged, outer⟩ : InUnit (Watched State Session) Session).unit :=
              serves
            obtain ⟨session, _, held, _, _⟩ := entering_of_ok own enters
            obtain ⟨_, state⟩ := entered
            obtain rfl := held
            obtain ⟨told, left, last, ran, leaves⟩ := run_block notes enters (onSession task)
            rw [ran] at returns ⊢
            obtain ⟨worked, committed⟩ := succeeds leaves returns
            rw [worked] at leaves
            exact ⟨session, state, _, left, Prod.ext worked rfl, rfl, leaves.leavingCalls, committed⟩

def scripted (plans : List (String × List (Option Failure))) :
    Watched Rehearsal.SessionState Nat :=
  ⟨[], { script := ⟨plans, [], []⟩, flags := [], initial := false }⟩

def refusal : Failure := .foreign ⟨.runtime, [.text "refused"]⟩

def afterOneBlock : InUnit (Watched Rehearsal.SessionState Nat) Nat :=
  ((block Rehearsal.SessionState.ops.watched fun _ => pure ()).run
    ⟨selfManaged, scripted [("commit", [none, some refusal]), ("close", [none, some refusal])]⟩).2

theorem second_block_is_rolled_back_and_closed :
    Rehearsal.SessionState.ops.NotesAlways ∧
    ofSources (none : Option Nat) true = .ok selfManaged ∧
    Reaches Rehearsal.SessionState.ops ⟨selfManaged,
      scripted [("commit", [none, some refusal]), ("close", [none, some refusal])]⟩ afterOneBlock ∧
    ∃ entered, (enter Rehearsal.SessionState.ops.watched).run afterOneBlock = (.ok (), entered) ∧
      ∃ left, ((block Rehearsal.SessionState.ops.watched fun _ => pure ()).run
          afterOneBlock).2.outer.calls = entered.outer.calls ++ left ∧
        LeavingCalls true 1 true left := by
  have notes : Rehearsal.SessionState.ops.NotesAlways := fun _ _ => rfl
  have made : ofSources (none : Option Nat) true = .ok selfManaged := rfl
  have reached : Reaches Rehearsal.SessionState.ops ⟨selfManaged,
      scripted [("commit", [none, some refusal]), ("close", [none, some refusal])]⟩ afterOneBlock :=
    .block .start _
  have enters : (enter Rehearsal.SessionState.ops.watched).run afterOneBlock = (.ok (), _) := rfl
  obtain ⟨⟨session, opened, left, held, _, _, calls, leaving, _⟩, _⟩ :=
    entered_blocks_follow_the_protocol notes made reached enters fun _ => pure ()
  obtain rfl : 1 = session := Option.some.inj (congrArg UnitOfWork.session held)
  exact ⟨notes, made, reached, _, enters, left, calls, leaving⟩

/-- A session that a unit makes for a block is closed, exactly once, if the block was entered. If a call
on it was refused while the block was entered, nothing closes the session: the unit holds it, and the
block is over. -/
theorem made_sessions_are_closed_once_entered (notes : ops.NotesAlways) (held : Option Session)
    (state : Watched State Session) (work : UnitOfWork Session → Action (Watched State Session) α) :
    let entered := (enter ops.watched).run ⟨⟨true, held⟩, state⟩
    let ended := (block ops.watched work).run ⟨⟨true, held⟩, state⟩
    ∃ opened, entered.2.outer.calls = state.calls ++ opened ∧
      opened.countP SessionCall.isMake = 1 ∧ opened.countP SessionCall.isClose = 0 ∧
      match entered.1 with
      | .ok _ => ∃ session left, .make (.ok session) ∈ opened ∧
          ended.2.outer.calls = ((work entered.2.unit).run entered.2.outer).2.calls ++ left ∧
          (∀ call ∈ left, call.session? = some session) ∧ left.countP SessionCall.isClose = 1
      | .error failure => ended = (.error failure, entered.2) ∧
          ∀ session, .make (.ok session) ∈ opened → entered.2.unit.session = some session := by
  intro entered ended
  obtain ⟨outer, ⟨failure, fails⟩ | ⟨session, outcome, calls, ran, opens⟩⟩ :=
    run_enter_own ops held state
  · have same : entered = _ := fails
    refine ⟨[.make (.error failure)], by rw [same], rfl, rfl, ?_⟩
    rw [same]
    exact ⟨run_block_error fails work, fun session unmade => nomatch unmade⟩
  · have same : entered = _ := ran
    refine ⟨.make (.ok session) :: calls, by rw [same], ?_, ?_, ?_⟩
    · rw [List.countP_cons_of_pos rfl, opens.none _ (fun _ => rfl) fun _ => rfl]
    · rw [List.countP_cons_of_neg Bool.false_ne_true, opens.none _ (fun _ => rfl) fun _ => rfl]
    · rw [same]
      cases outcome with
      | error failure =>
          refine ⟨run_block_error ran work, fun other made => ?_⟩
          obtain same | later := List.mem_cons.mp made
          · obtain rfl := Except.ok.inj (SessionCall.make.inj same)
            rfl
          · have others : ∀ call ∈ calls, call ≠ .make (.ok other) :=
              opens.all (fun answer asked => nomatch asked) fun outcome began => nomatch began
            exact absurd rfl (others _ later)
      | ok done =>
          obtain ⟨told, left, last, ends, leaves⟩ := run_block notes ran work
          have same : ended = _ := ends
          refine ⟨session, left, List.mem_cons_self, ?_, leaves.leavingCalls.own,
            leaves.leavingCalls.closes⟩
          rw [same]

theorem refused_beginning_keeps_its_session :
    Rehearsal.SessionState.ops.NotesAlways ∧
    ∃ opened, ((enter Rehearsal.SessionState.ops.watched).run
        ⟨selfManaged, scripted [("begin", [some refusal])]⟩).2.outer.calls = opened ∧
      opened.countP SessionCall.isMake = 1 ∧ opened.countP SessionCall.isClose = 0 := by
  have notes : Rehearsal.SessionState.ops.NotesAlways := fun _ _ => rfl
  obtain ⟨opened, calls, makes, closes, _⟩ := made_sessions_are_closed_once_entered notes none
    (scripted [("begin", [some refusal])]) fun _ => pure ()
  exact ⟨notes, opened, calls, makes, closes⟩

theorem session_of_a_refused_block_stays_open :
    let ended := (block Rehearsal.SessionState.ops.watched fun _ => pure ()).run
      ⟨selfManaged, scripted [("begin", [some refusal])]⟩
    ended.1.toOption = (none : Option Unit) ∧ ended.2.unit.session = some 0 ∧
      ended.2.outer.calls.countP SessionCall.isMake = 1 ∧
      ended.2.outer.calls.countP SessionCall.isClose = 0 := by
  refine ⟨?_, ?_, ?_, ?_⟩
  · decide +kernel
  · decide +kernel
  · decide +kernel
  · decide +kernel

end Protocol

end UnitOfWork
end RecordStore
