import RecordStore.Proofs.AllOrNothing
import RecordStore.Proofs.HostedRecords
import RecordStore.Proofs.PositiveIdentities

/-!
What a rolled back block leaves to the records that were created in it. The table forgets them, but they
hold what they held when the rollback began, the identities of their lost rows included.
-/

namespace RecordStore
namespace Repository

open Workspace UnitOfWork

variable {repository : Repository} {unit : UnitOfWork SessionId} {id : SessionId} {guest : Handle}
  {α Reply : Type} {workspace : Workspace}

section Calls

theorem hosting_insert (repository : Repository) (id : SessionId) (guest record : Handle) :
    Action.Moves (Hosting id guest) (repository.insert id record) :=
  Action.moves_bind (hosting_add repository.model id guest record) fun _ =>
    Action.moves_bind (hosting_flushWith repository.model id guest none false) fun _ =>
      hosting_refresh repository.model id guest record

theorem hosting_saveIn (repository : Repository) (id : SessionId) (guest record : Handle) :
    Action.Moves (Hosting id guest) (repository.saveIn record id) := by
  refine Action.moves_bind (hosting_merge repository.model id guest record) fun merged => ?_
  refine Action.moves_bind (hosting_flushWith repository.model id guest (some merged) false) fun _ => ?_
  exact Action.moves_bind (hosting_refresh repository.model id guest merged) fun _ =>
    Action.moves_pure _

theorem hosting_readIdentity (model : Model) (id : SessionId) (guest record : Handle) :
    Action.Moves (Hosting id guest) (readIdentity model record) := by
  intro workspace hosts
  rw [state_readIdentity]
  exact hosts

theorem hosting_setAttribute (model : Model) (id : SessionId) (guest record : Handle) (name : String)
    (value : Value) : Action.Moves (Hosting id guest) (setAttribute model record name value) := by
  have sets : Action.Moves (Hosting id guest) (if (model.attribute? name).isSome then
      Action.modify (changeRecord record (Record.set name value)) else pure ()) := by
    split
    · refine Action.moves_modify fun workspace hosts => hosts.changeRecord ?_
      exact fun _ => rfl
    · exact Action.moves_pure ()
  simp only [setAttribute]
  split
  · exact Action.moves_bind (hosting_readIdentity model id guest record) fun _ => sets
  · exact sets

theorem hosting_makeRecord (model : Model) (id : SessionId) (guest : Handle)
    (fields : List (String × Value)) : Action.Moves (Hosting id guest) (makeRecord model fields) :=
  Action.moves_bind (Action.moves_ofOutcome _) fun _ _ hosts => hosts.withRecord _

theorem hosting_steps (repository : Repository) (id : SessionId) (guest : Handle) :
    StepsMove repository id (Hosting id guest) where
  notes _ _ hosts := hosts.of_same rfl (Nat.le_refl _) (Nat.le_refl _) rfl
  finds identity := hosting_find repository.model id guest identity
  queries selection _ := hosting_query id guest selection
  counts counting _ := hosting_countRows id guest counting
  makes fields := hosting_makeRecord repository.model id guest fields
  identifies record := hosting_readIdentity repository.model id guest record
  assigns record name value := hosting_setAttribute repository.model id guest record name value
  inserts record := hosting_insert repository id guest record
  saves record := hosting_saveIn repository id guest record
  deletes identity := hosting_deleteIdentity repository.model id guest identity

end Calls

section Steps

theorem holdsRow_of_refresh {model : Model} {record : Handle} {before after : Workspace}
    (ran : (refresh model id record).run before = (.ok (), after)) : HoldsRow model record after := by
  obtain ⟨_, prepared, _, ran⟩ := Action.run_bind_ok_iff.mp ran
  rw [Action.run_bind_ok (Action.run_get _)] at ran
  obtain ⟨cell, middle, binds, ran⟩ := Action.run_bind_ok_iff.mp ran
  obtain ⟨bound, rfl⟩ := Action.run_ofStore_ok_iff.mp binds
  split at ran
  · rename_i row located
    obtain ⟨_, rfl⟩ := Prod.mk.inj ran
    refine ⟨row, List.mem_of_find?_eq_some located, ?_⟩
    have known : record < prepared.records.length := by
      refine lt_of_keyed fun keyless => ?_
      rw [keyless] at bound
      obtain rfl : Cell.null = cell := Except.ok.inj bound
      rw [locate?_null] at located
      cases located
    rw [record_changeRecord_self known]
    rfl
  · cases ran

theorem create_holdsRow {record created : Handle} {before after : Workspace}
    (held : unit.session = some id)
    (ran : (repository.create record (some unit)).run before = (.ok created, after)) :
    HoldsRow repository.model record after := by
  have inserts {start last : Workspace} (ran : (do
      repository.changing (some unit) fun session => repository.insert session record
      repository.debugRecord "Created" record
      pure record : Action Workspace Handle).run start = (.ok created, last)) :
      HoldsRow repository.model record last := by
    rw [changing_joined held] at ran
    obtain ⟨_, inserted, inserting, logs⟩ := Action.run_bind_ok_iff.mp ran
    obtain ⟨_, added, _, inserting⟩ := Action.run_bind_ok_iff.mp inserting
    obtain ⟨_, flushed, _, refreshes⟩ := Action.run_bind_ok_iff.mp inserting
    obtain ⟨_, logged, logging, done⟩ := Action.run_bind_ok_iff.mp logs
    obtain rfl : logged = last := (Prod.mk.inj done).2
    have holds := holdsRow_of_refresh refreshes
    obtain ⟨journal, rfl⟩ := debugRecord_ok logging
    exact holds
  obtain ⟨identity, start, _, rest⟩ := Action.run_bind_ok_iff.mp ran
  split at rest
  · obtain ⟨_, _, _, failed⟩ := Action.run_bind_ok_iff.mp rest
    cases failed
  · split at rest
    · obtain ⟨_, cleared, _, adds⟩ := Action.run_bind_ok_iff.mp rest
      exact inserts adds
    · exact inserts rest

theorem state_flushWith_rejected {model : Model} {stamped : Option Handle} {duringQuery : Bool}
    (rejected : workspace.Rejected id) :
    ((flushWith model id stamped duringQuery).run workspace).2 = workspace := by
  simp only [flushWith]
  rw [Action.run_bind_ok (Action.run_get workspace)]
  split
  · rfl
  · cases used : (useTransaction id).run workspace with
    | mk outcome begun =>
        cases outcome with
        | error failure =>
            rw [Action.run_bind_error used]
            exact (run_useTransaction_error used).2.2
        | ok _ =>
            obtain ⟨cause, duringWrite, failed⟩ := rejected
            exact absurd failed ((run_useTransaction_ok_iff.mp used).1 cause duringWrite)

theorem state_refresh_rejected {model : Model} {record : Handle} (rejected : workspace.Rejected id) :
    ((refresh model id record).run workspace).2 = workspace := by
  have flushes : ((flushBeforeQuery model id).run workspace).2 = workspace :=
    state_flushWith_rejected rejected
  cases prepares : (prepareQuery model id).run workspace with
  | mk outcome prepared =>
      cases outcome with
      | ok _ => exact absurd rejected (not_rejected_of_prepareQuery prepares)
      | error failure =>
          rw [refresh, Action.run_bind_error prepares]
          rw [prepareQuery, Action.run_bind] at prepares
          cases flushed : (flushBeforeQuery model id).run workspace with
          | mk outcome last =>
              rw [flushed] at flushes prepares
              obtain rfl : last = workspace := flushes
              cases outcome with
              | error cause => exact (Prod.mk.inj prepares).2.symm
              | ok _ => exact (run_useTransaction_error prepares).2.2

theorem accepted_refresh_settled {model : Model} {record : Handle}
    (known : id < workspace.sessions.length) (settled : Settled id workspace)
    (accepted : ¬workspace.Rejected id) :
    ¬((refresh model id record).run workspace).2.Rejected id := by
  have uses : (useTransaction id).run workspace = (.ok (), workspace.begun id) :=
    run_useTransaction_ok_iff.mpr ⟨fun cause duringQuery failed => accepted ⟨cause, duringQuery, failed⟩,
      rfl⟩
  have prepares : (prepareQuery model id).run workspace = (.ok (), workspace.begun id) := by
    rw [prepareQuery, flushBeforeQuery, Action.run_bind_ok (run_flushWith_settled settled)]
    exact uses
  have sound := not_rejected_of_useTransaction known uses
  rw [refresh, Action.run_bind_ok prepares, Action.run_bind_ok (Action.run_get _), Action.run_bind]
  simp only [Action.ofStore, Action.run_ofOutcome]
  cases Cell.bind 1 (((workspace.begun id).record record).key.getD .null) with
  | error failure => exact sound
  | ok cell =>
      simp only [Except.mapError]
      split
      · exact sound
      · exact sound

theorem accepted_of_flushWith {model : Model} {stamped : Option Handle} {duringQuery : Bool}
    {after : Workspace} (known : id < workspace.sessions.length) (accepted : ¬workspace.Rejected id)
    (ran : (flushWith model id stamped duringQuery).run workspace = (.ok (), after)) :
    ¬after.Rejected id := by
  rcases flushWith_ok ran with ⟨_, _, rfl⟩ | ⟨written, wrote, rfl⟩
  · exact accepted
  · have settle (middle : Workspace) (handle : Handle) :
        Steady id middle (middle.settleRecord id handle) := steady_settleRecord id handle middle
    have settles := related_foldl settle
      (workspace.changedRecords id stamped ++ (workspace.session id).pending) written
    rw [settles.rejected_iff, Rejected, Workspace.session, (writes_writeRecords wrote).sessions]
    exact (rejected_begun_iff known).not.mpr accepted

theorem values_of_rejected_write {model : Model} {record : Handle} (hosts : Hosts id record workspace)
    (keyless : workspace.Keyless id) (apart : record ∉ (workspace.session id).attached)
    (rejected : ((do
      flush model id
      refresh model id record : Action Workspace Unit).run workspace).2.Rejected id) :
    (((do
      flush model id
      refresh model id record : Action Workspace Unit).run workspace).2.record record).values =
      (workspace.record record).values := by
  by_cases gone : workspace.Rejected id
  · have flushes : ((flush model id).run workspace).2 = workspace := state_flushWith_rejected gone
    cases ran : (flush model id).run workspace with
    | mk outcome flushed =>
        rw [ran] at flushes
        obtain rfl : flushed = workspace := flushes
        cases outcome with
        | error failure => rw [Action.run_bind_error ran]
        | ok _ => rw [Action.run_bind_ok ran, state_refresh_rejected gone]
  · have moved := withheld_flushWith model id none false workspace
    cases ran : (flush model id).run workspace with
    | mk outcome flushed =>
        rw [flush] at ran
        rw [ran] at moved
        cases outcome with
        | error failure =>
            rw [flush, Action.run_bind_error ran]
            obtain ⟨_, ⟨before, _⟩ | ⟨_, cause, rfl⟩⟩ := flushWith_error ran
            · exact absurd before gone
            · have goes := hosts.begun.letsGo (.failed cause false)
              rcases goes.values with kept | ⟨attached, _⟩
              · rw [record_begun] at kept
                exact kept
              · rw [attached_begun] at attached
                exact absurd attached apart
        | ok _ =>
            have settled := settled_of_settledBut
              (settledBut_of_flushWith hosts.known (keyless.resolve_left gone) ran)
            rw [flush, Action.run_bind_ok ran] at rejected
            exact absurd rejected (accepted_refresh_settled
              (Nat.lt_of_lt_of_le hosts.known moved.sessions) settled
              (accepted_of_flushWith hosts.known gone ran))

theorem values_of_rejected_insert {record : Handle} (known : id < workspace.sessions.length)
    (quiet : workspace.Quiet id) (bound : record < workspace.records.length)
    (untraced : ¬workspace.Traces id record)
    (rejected : ((repository.insert id record).run workspace).2.Rejected id) :
    (((repository.insert id record).run workspace).2.record record).values =
      (workspace.record record).values := by
  have keyless : (workspace.record record).key = none := by
    by_contra keyed
    exact untraced (.inl keyed)
  have leaves := leaves_add repository.model record known quiet
  have records := records_add repository.model id record workspace
  have added := hosting_add repository.model id record record workspace
    (hosts_of_untraced known bound untraced)
  cases adds : (add repository.model id record).run workspace with
  | mk outcome middle =>
      rw [adds] at leaves records added
      have same : middle.record record = workspace.record record := by
        rw [Workspace.record, records, Workspace.record]
      rw [← same]
      cases outcome with
      | error failure => rw [insert, Action.run_bind_error adds]
      | ok _ =>
          have apart : record ∉ (middle.session id).attached := by
            rcases add_keyless keyless adds with rfl | rfl
            · exact fun attached => untraced (.inr (.inl attached))
            · rw [awaiting, session_changeSession_self _ known]
              exact fun attached => untraced (.inr (.inl attached))
          rw [insert, Action.run_bind_ok adds] at rejected ⊢
          exact values_of_rejected_write added leaves apart rejected

section Rejected

variable {record : Handle} (held : unit.session = some id) (known : id < workspace.sessions.length)
  (quiet : workspace.Quiet id) (bound : record < workspace.records.length)
  (untraced : ¬workspace.Traces id record)
  (looksNew : isNew (.record repository.model.name (workspace.record record).values) = true)

include held known quiet bound untraced looksNew

theorem new_of_rejected_insert (rejected : ((do
      repository.changing (some unit) fun session => repository.insert session record
      repository.debugRecord "Created" record
      pure record : Action Workspace Handle).run workspace).2.Rejected id) :
    isNew (.record repository.model.name (((do
      repository.changing (some unit) fun session => repository.insert session record
      repository.debugRecord "Created" record
      pure record : Action Workspace Handle).run workspace).2.record record).values) = true := by
  have notes : Action.Moves (Still id) (do
      repository.debugRecord "Created" record
      pure record) :=
    Action.moves_bind (Action.moves_bind (still_readIdentity _ record) fun _ _ =>
      ⟨⟨Nat.le_refl _, rfl, rfl⟩, rfl⟩) fun _ => Action.moves_pure _
  rw [changing_joined held] at rejected ⊢
  cases inserting : (repository.insert id record).run workspace with
  | mk outcome inserted =>
      cases outcome with
      | error failure =>
          rw [Action.run_bind_error inserting] at rejected ⊢
          have kept : (((repository.insert id record).run workspace).2.record record).values =
              (workspace.record record).values := by
            refine values_of_rejected_insert known quiet bound untraced ?_
            rw [inserting]
            exact rejected
          rw [inserting] at kept
          rw [kept]
          exact looksNew
      | ok _ =>
          rw [Action.run_bind_ok inserting] at rejected
          exact absurd ((notes inserted).rejected_iff.mp rejected)
            (insert_stored known quiet inserting).accepted

omit held known quiet bound untraced looksNew in
theorem run_setIdentity {model : Model} {identity : Value} (value : Value)
    (read : (readIdentity model record).run workspace = (.ok identity, workspace)) :
    (setAttribute model record Attribute.identity.name value).run workspace =
      (.ok (), workspace.changeRecord record (Record.set Attribute.identity.name value)) := by
  cases sets : (setAttribute model record Attribute.identity.name value).run workspace with
  | mk outcome after =>
      cases outcome with
      | ok _ => rw [setIdentity_ok sets]
      | error failure =>
          simp only [setAttribute, if_true] at sets
          rw [Action.run_bind_ok read] at sets
          split at sets <;> cases sets

theorem new_of_rejected_create
    (rejected : ((repository.create record (some unit)).run workspace).2.Rejected id) :
    isNew (.record repository.model.name
      (((repository.create record (some unit)).run workspace).2.record record).values) = true := by
  have reads := state_readIdentity repository.model record workspace
  cases read : (readIdentity repository.model record).run workspace with
  | mk outcome start =>
      rw [read] at reads
      obtain rfl : start = workspace := reads
      cases outcome with
      | error failure =>
          rw [create, Action.run_bind_error read]
          exact looksNew
      | ok identity =>
          rw [create, Action.run_bind_ok read] at rejected ⊢
          split
          · exact looksNew
          · rename_i passes
            rw [if_neg passes] at rejected
            split
            · rename_i zero
              rw [if_pos zero, Action.run_bind_ok (run_setIdentity .null read)] at rejected
              rw [Action.run_bind_ok (run_setIdentity .null read)]
              let cleared := start.changeRecord record (Record.set Attribute.identity.name .null)
              have same : cleared.record record =
                  (start.record record).set Attribute.identity.name .null :=
                record_changeRecord_self bound
              refine new_of_rejected_insert held known ((still_changeRecord record _ start).quiet quiet)
                ?_ ?_ ?_ rejected
              · exact (List.length_modify _ _ _).symm ▸ bound
              · have untracedStill : ¬cleared.Traces id record := by
                  rw [Traces, same]
                  exact untraced
                exact untracedStill
              · have setsNew : isNew (.record repository.model.name (cleared.record record).values) =
                    true := by
                  rw [same, isNew_record, Record.get?_set_self]
                  rfl
                exact setsNew
            · rename_i notZero
              rw [if_neg notZero] at rejected
              exact new_of_rejected_insert held known quiet bound untraced looksNew rejected

end Rejected

theorem hosts_of_mem_steps (held : unit.session = some id) {body : Body α} {step : Step}
    (known : id < workspace.sessions.length) (listed : step ∈ body.steps repository unit workspace) :
    (step.call.perform repository (some unit)).run step.before = (step.outcome, step.after) ∧
      id < step.before.sessions.length ∧
      (Hosts id guest step.before → Hosts id guest ((body.run repository unit).run workspace).2) := by
  obtain ⟨start, ran, _⟩ := (tentative_steps repository id).moves_around held listed
  obtain ⟨_, _, rest⟩ := (hosting_steps repository id guest).moves_around held listed
  refine ⟨ran, Nat.lt_of_lt_of_le known start.sessions, fun hosts => rest ?_⟩
  have performed := (hosting_steps repository id guest).moves_perform held step.call step.before hosts
  rwa [ran] at performed

end Steps

section Ends

variable {model : Model} {source : Option SessionId} {flushed inside : Workspace} {failure : Failure}

theorem hosts_recorded (record : JournalRecord) (hosts : Hosts id guest workspace) :
    Hosts id guest (workspace.recorded record) :=
  hosts.of_same rfl (Nat.le_refl _) (Nat.le_refl _) rfl

/-- A commit that fails lets go of a guest, unless the session was given up before. -/
theorem hosts_of_finishWrites (hosts : Hosts id guest inside)
    (ran : (finishWrites model id).run inside = (.error failure, flushed)) :
    Hosts id guest flushed ∧ (flushed = inside ∨
      (flushed.record guest).values = (inside.record guest).values ∧
        guest ∉ (flushed.session id).attached) := by
  have finishes : Hosts id guest ((finishWrites model id).run inside).2 :=
    Action.moves_bind (hosting_useTransaction id guest)
      (fun _ => hosting_flushWith model id guest none false) inside hosts
  rw [ran] at finishes
  refine ⟨finishes, ?_⟩
  cases used : (useTransaction id).run inside with
  | mk outcome begun =>
      cases outcome with
      | error cause =>
          rw [finishWrites, Action.run_bind_error used] at ran
          obtain ⟨_, rfl⟩ := Prod.mk.inj ran
          exact .inl (run_useTransaction_error used).2.2
      | ok _ =>
          have accepted := not_rejected_of_useTransaction hosts.known used
          obtain ⟨_, rfl⟩ := run_useTransaction_ok_iff.mp used
          rw [finishWrites, Action.run_bind_ok used] at ran
          obtain ⟨_, ⟨rejected, _⟩ | ⟨again, cause, rfl⟩⟩ := flushWith_error ran
          · exact absurd rejected accepted
          · have knownBegun := hosts.begun.known
            have goes := hosts.begun.begun.letsGo (.failed cause false)
            have own := hosts.begun.begun.own (not_rejected_of_useTransaction knownBegun again)
            refine .inr ⟨?_, fun found => ?_⟩
            · rcases goes.values with same | ⟨attached, apart, _⟩
              · rw [record_begun, record_begun] at same
                exact same
              · exact absurd (own (.inr (.inl attached))) apart
            · obtain ⟨attached, apart⟩ := goes.attached found
              exact apart (own (.inr (.inl attached)))

theorem record_released (owns : Bool) (id : SessionId) (workspace : Workspace) (handle : Handle) :
    (released owns id workspace).record handle = workspace.record handle := by
  cases owns with
  | false => rfl
  | true => rw [released, if_pos rfl, Workspace.record, records_closeSession, ← Workspace.record]

theorem spares_released (owns : Bool) (record : JournalRecord) (hosts : Hosts id guest workspace) :
    Spares id guest workspace (released owns id ((workspace.recorded record).rollBack id)) := by
  rw [Spares, record_released]
  exact (hosts_recorded record hosts).spares_rollBack

theorem spares_block_error {body : Body α}
    (hosts : Hosts (sessionIn source workspace) guest (bodyEnd repository body source workspace).2)
    (fails : (blockEnd repository body source workspace).1 = .error failure) :
    Spares (sessionIn source workspace) guest (bodyEnd repository body source workspace).2
      (blockEnd repository body source workspace).2 := by
  have works := works_block repository body source workspace
  cases worked : bodyEnd repository body source workspace with
  | mk outcome inside =>
      rw [worked] at hosts
      cases outcome with
      | error cause =>
          have ends : blockEnd repository body source workspace = _ := run_around_error works worked
          rw [ends]
          exact spares_released _ _ hosts
      | ok value =>
          cases finished : (finishWrites repository.model (sessionIn source workspace)).run inside with
          | mk outcome flushed =>
              cases outcome with
              | ok _ =>
                  have ends : blockEnd repository body source workspace = _ :=
                    run_around_ok works worked finished
                  rw [ends] at fails
                  cases fails
              | error cause =>
                  have ends : blockEnd repository body source workspace = _ :=
                    run_around_unfinished works worked
                      (ordinary_of_finishWrites hosts.known finished) finished
                  obtain ⟨hosts, same | ⟨values, apart⟩⟩ := hosts_of_finishWrites hosts finished
                  · rw [ends, ← same]
                    exact spares_released _ _ hosts
                  · rw [ends]
                    refine .inl (((spares_released _ _ hosts).resolve_right ?_).trans values)
                    exact fun ⟨_, attached, _⟩ => apart attached

end Ends

/-- A rolled back block gives the table back, but not the records that were created in it. A record of which
there was no trace before its creation holds its row when the creation succeeds, and is as new as before
when the store rejects it. After the block it holds whatever it held when the body ended, so that it passes
for stored if it looked stored then. It only has to be read again if the body gave it to the session once
more after a rejected write. -/
theorem created_records_outlast_the_rollback (repository : Repository) (body : Body α)
    {source : Option SessionId} {hasFactory : Bool} {unit : UnitOfWork SessionId}
    (made : UnitOfWork.ofSources source hasFactory = .ok unit)
    (known : ∀ id ∈ source, id < workspace.sessions.length) {failure : Failure}
    (fails : ((body.inBlock repository unit).run workspace).1 = .error failure) :
    let id := sessionIn source workspace
    let start := opened source workspace
    let inside := (body.run repository (entered source workspace)).run start
    let ended := (body.inBlock repository unit).run workspace
    let looksNew (record : Handle) (workspace : Workspace) :=
      isNew (.record repository.model.name (workspace.record record).values)
    ended.2.table = keptBefore source workspace ∧
      ∀ record before outcome after,
        (⟨.create record, before, outcome, after⟩ : Step) ∈
          body.steps repository (entered source workspace) start →
        record < before.records.length → ¬before.Traces id record →
        (∀ created, outcome = .ok created → HoldsRow repository.model record after) ∧
        ((∀ given ∈ source, workspace.Quiet given) → after.Rejected id → looksNew record before = true →
          looksNew record after = true) ∧
        Spares id record inside.2 ended.2 ∧
        ((ended.2.record record).values = (inside.2.record record).values →
          looksNew record inside.2 = false → repository.PassesStored record ended.2) := by
  obtain rfl := ofSources_eq_ok made
  intro id start inside ended looksNew
  refine ⟨table_block_error repository source workspace known fails, ?_⟩
  intro record before outcome after listed bound untraced
  have held := session_entered source workspace
  obtain ⟨ran, knownBefore, stays⟩ := hosts_of_mem_steps held (sessionIn_known known) listed
  have hosts := stays (hosts_of_untraced knownBefore bound untraced)
  refine ⟨fun created succeeds => ?_, fun quiet rejected looked => ?_, spares_block_error hosts fails,
    fun values looksStored => ?_⟩
  · rw [succeeds] at ran
    exact create_holdsRow held ran
  · obtain ⟨_, quietBefore, _⟩ :=
      ran_of_mem_steps held (sessionIn_known known) (quiet_opened quiet) listed
    have ends : ((repository.create record (some (entered source workspace))).run before).2 = after :=
      congrArg Prod.snd ran
    rw [← ends] at rejected ⊢
    exact new_of_rejected_create held knownBefore quietBefore bound untraced looked rejected
  · have same : looksNew record ended.2 = looksNew record inside.2 :=
      congrArg (fun held => isNew (.record repository.model.name held)) values
    exact passesStored_of_notNew (same.trans looksStored)

def abandoned : Body Unit :=
  .make [("name", .text "Ada")] fun made => match made with
    | .ok record => .call (.create record) fun _ => .raise (.foreign ⟨.runtime, [.text "abort"]⟩)
    | .error failure => .raise failure

theorem abandoned_ada_passes_for_stored :
    UnitOfWork.ofSources (none : Option SessionId) true = .ok .selfManaged ∧
    (∃ failure, (blockEnd people abandoned none nobody).1 = .error failure) ∧
    (∃ before outcome after, (⟨.create 0, before, outcome, after⟩ : Step) ∈
        abandoned.steps people (entered none nobody) (opened none nobody) ∧
      0 < before.records.length ∧ ¬before.Traces 0 0) ∧
    (blockEnd people abandoned none nobody).2.table = nobody.table ∧
    people.PassesStored 0 (blockEnd people abandoned none nobody).2 := by
  have made : UnitOfWork.ofSources (none : Option SessionId) true = .ok .selfManaged := rfl
  have known : ∀ id ∈ (none : Option SessionId), id < nobody.sessions.length := known_own
  have fails : (blockEnd people abandoned none nobody).1 =
      .error (.foreign ⟨.runtime, [.text "abort"]⟩) := block_error rfl
  have listed : (⟨.create 0, _, _, _⟩ : Step) ∈
      abandoned.steps people (entered none nobody) (opened none nobody) := List.mem_cons_self
  have bound : 0 < ((opened none nobody).withRecord { values := [("name", .text "Ada")] }).records.length :=
    Nat.zero_lt_one
  have untraced : ¬((opened none nobody).withRecord { values := [("name", .text "Ada")] }).Traces 0 0 := by
    rintro (keyed | attached | gone | switched)
    · exact keyed rfl
    · exact List.not_mem_nil attached
    · exact List.not_mem_nil gone
    · exact List.not_mem_nil switched
  obtain ⟨table, outlasts⟩ := created_records_outlast_the_rollback people abandoned made known fails
  obtain ⟨_, _, spares, passes⟩ := outlasts 0 _ _ _ listed bound untraced
  have accepted : ¬(bodyEnd people abandoned none nobody).2.Rejected 0 := by
    decide +kernel
  have looksStored : isNew (.record people.model.name
      ((bodyEnd people abandoned none nobody).2.record 0).values) = false := by
    decide +kernel
  have values := spares.resolve_right fun ⟨rejected, _⟩ => accepted rejected
  exact ⟨made, ⟨_, fails⟩, ⟨_, _, _, listed, bound, untraced⟩, table, passes values looksStored⟩

/-- After a block that was rolled back, a person that was created in it has no row, but is not new and
cannot be created again. -/
theorem abandoned_ada_is_not_new :
    let after := (blockEnd people abandoned none nobody).2
    (blockEnd people abandoned none nobody).1.toOption = none ∧ after.table.rows = [] ∧
      isNew (.record people.model.name (after.record 0).values) = false ∧
      ((people.create 0 none).run after).1.toOption = none := by
  refine ⟨?_, ?_, ?_, ?_⟩
  · decide +kernel
  · decide +kernel
  · decide +kernel
  · decide +kernel

end Repository
end RecordStore
