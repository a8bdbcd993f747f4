import RecordStore.Proofs.TableEffects

/-!
What a save does to the table when nothing was left unsaved before it: the record that it merged into is
the only one to write, and it is written.
-/

namespace RecordStore
namespace Workspace

variable {model : Model} {id : SessionId} {before after : Workspace}

def Knows (id : SessionId) (handle : Handle) (workspace : Workspace) : Prop :=
  handle ∈ (workspace.session id).attached ∨ handle ∈ (workspace.session id).pending

theorem attached_of_loadRow {row : Row} {found : Handle} (known : id < before.sessions.length)
    (ran : (loadRow model id row).run before = (.ok found, after)) :
    found ∈ (after.session id).attached := by
  rw [run_loadRow] at ran
  split at ran
  · rename_i handle attached
    obtain ⟨rfl, rfl⟩ := Action.run_pure_ok_iff.mp ran
    exact List.mem_of_find?_eq_some attached
  · obtain ⟨rfl, rfl⟩ := Action.run_pure_ok_iff.mp ran
    rw [attached_introduce known]
    exact List.mem_append_right _ List.mem_cons_self

theorem attached_of_loadIdentity {key : Value} {found : Handle} (known : id < before.sessions.length)
    (ran : (loadIdentity model id key).run before = (.ok (some found), after)) :
    found ∈ (after.session id).attached := by
  obtain ⟨_, begun, begins, ran⟩ := Action.run_bind_ok_iff.mp ran
  obtain ⟨_, rfl⟩ := run_useTransaction_ok_iff.mp begins
  obtain ⟨cell, middle, binds, ran⟩ := Action.run_bind_ok_iff.mp ran
  obtain ⟨_, rfl⟩ := Action.run_ofOutcome_ok_iff.mp binds
  rw [Action.run_bind_ok (Action.run_get _)] at ran
  split at ran
  · obtain ⟨handle, loaded, loads, last⟩ := Action.run_bind_ok_iff.mp ran
    obtain ⟨same, rfl⟩ := Action.run_pure_ok_iff.mp last
    obtain rfl := Option.some.inj same
    exact attached_of_loadRow (by rwa [length_sessions_begun]) loads
  · cases ran

theorem attached_of_revive {handle found : Handle} (held : handle ∈ (before.session id).attached)
    (ran : (revive model id handle).run before = (.ok (some found), after)) :
    found ∈ (after.session id).attached := by
  obtain ⟨_, begun, begins, ran⟩ := Action.run_bind_ok_iff.mp ran
  obtain ⟨_, rfl⟩ := run_useTransaction_ok_iff.mp begins
  rw [Action.run_bind_ok (Action.run_get _)] at ran
  obtain ⟨cell, middle, binds, ran⟩ := Action.run_bind_ok_iff.mp ran
  obtain ⟨_, rfl⟩ := Action.run_ofOutcome_ok_iff.mp binds
  split at ran
  · obtain ⟨_, filled, fills, last⟩ := Action.run_bind_ok_iff.mp ran
    obtain ⟨_, rfl⟩ := Prod.mk.inj fills
    obtain ⟨same, rfl⟩ := Action.run_pure_ok_iff.mp last
    obtain rfl := Option.some.inj same
    rw [session_changeRecord, attached_begun]
    exact held
  · obtain ⟨_, dropped, drops, last⟩ := Action.run_bind_ok_iff.mp ran
    cases (Prod.mk.inj last).1

theorem settledBut_of_settled (left : List Handle) (known : id < before.sessions.length)
    (settled : Settled id before) : SettledBut id left before := by
  refine ⟨known, fun handle waiting => ?_, fun handle held changed => ?_⟩
  · rw [settled.noPending] at waiting
    exact (List.not_mem_nil waiting).elim
  · exact absurd (settled.unchanged handle held) changed

theorem settledBut_changeRecord {handle : Handle} {edit : Record → Record}
    (key : ∀ record, (edit record).key = record.key) (left : SettledBut id [handle] before) :
    SettledBut id [handle] (before.changeRecord handle edit) := by
  refine ⟨left.known, fun other waiting => ?_, fun other held changed => ?_⟩
  · obtain ⟨only, keyless⟩ := left.pending other waiting
    refine ⟨only, ?_⟩
    rw [record_changeRecord]
    split
    · rename_i found
      rw [key, ← found.1]
      exact keyless
    · exact keyless
  · by_cases same : other = handle
    · exact List.mem_singleton.mpr same
    · rw [record_changeRecord, if_neg fun found => same found.1] at changed
      exact left.changed other held changed

theorem knows_of_owner {owner : SessionId} {handle : Handle}
    (owned : before.owner? handle = some owner) : Knows owner handle before := by
  have held := List.find?_some owned
  simpa [Knows] using held

theorem add_ok {handle : Handle} (known : id < before.sessions.length) (settled : Settled id before)
    (keyless : (before.record handle).key = none)
    (ran : (add model id handle).run before = (.ok (), after)) :
    after.table = before.table ∧ SettledBut id [handle] after ∧ Knows id handle after := by
  simp only [add, Action.run_bind, Action.run_get, keyless] at ran
  split at ran
  · rename_i owner owned
    split at ran
    · rename_i same
      obtain ⟨_, rfl⟩ := Prod.mk.inj ran
      exact ⟨rfl, settledBut_of_settled _ known settled, same ▸ knows_of_owner owned⟩
    · cases ran
  · obtain ⟨_, rfl⟩ := Prod.mk.inj ran
    have session : (before.awaiting id handle).session id =
        { before.session id with pending := [handle] } := by
      rw [awaiting, session_changeSession_self _ known, settled.noPending]
      rfl
    refine ⟨rfl, ⟨by simpa using known, fun other waiting => ?_, fun other held changed => ?_⟩, ?_⟩
    · rw [← awaiting, session] at waiting
      obtain rfl := List.mem_singleton.mp waiting
      exact ⟨waiting, keyless⟩
    · rw [← awaiting, session] at held
      exact absurd (settled.unchanged other held) changed
    · rw [← awaiting, Knows, session]
      exact .inr List.mem_cons_self
  · rename_i key _ keyed
    cases keyed

theorem foundOrNew_ok (found : Option Handle) {target : Handle} (known : id < before.sessions.length)
    (settled : Settled id before) (held : ∀ handle ∈ found, handle ∈ (before.session id).attached)
    (ran : (foundOrNew model id found).run before = (.ok target, after)) :
    after.table = before.table ∧ SettledBut id [target] after ∧ Knows id target after := by
  cases found with
  | some handle =>
      obtain ⟨rfl, rfl⟩ := Action.run_pure_ok_iff.mp ran
      exact ⟨rfl, settledBut_of_settled _ known settled, .inl (held _ rfl)⟩
  | none =>
      obtain ⟨handle, made, makes, ran⟩ := Action.run_bind_ok_iff.mp ran
      obtain ⟨_, added, adds, last⟩ := Action.run_bind_ok_iff.mp ran
      obtain ⟨rfl, rfl⟩ := Action.run_pure_ok_iff.mp last
      obtain ⟨rfl, rfl⟩ := Action.run_pure_ok_iff.mp makes
      have keyless : ((before.withRecord { values := [] }).record before.records.length).key = none := by
        rw [record_withRecord, if_pos rfl]
      have knownNew : id < (before.withRecord { values := [] }).sessions.length := known
      have added := add_ok knownNew (settled_withRecord [] settled) keyless adds
      exact added

theorem mergeTarget_ok {source : Record} {target : Handle} (known : id < before.sessions.length)
    (settled : Settled id before)
    (ran : (mergeTarget model id source).run before = (.ok target, after)) :
    after.table = before.table ∧ SettledBut id [target] after ∧ Knows id target after := by
  simp only [mergeTarget] at ran
  rw [Action.run_bind_ok (Action.run_get before)] at ran
  split at ran
  · rename_i handle attached
    have held := List.mem_of_find?_eq_some attached
    split at ran
    · obtain ⟨found, revived, revives, ran⟩ := Action.run_bind_ok_iff.mp ran
      have reading := untouched_revive model id handle before
      rw [revives] at reading
      obtain ⟨known, settled, same⟩ := reading known settled
      rw [← same]
      refine foundOrNew_ok found known settled (fun other given => ?_) ran
      exact attached_of_revive held (Option.mem_def.mp given ▸ revives)
    · have chose : (foundOrNew model id (some handle)).run before = (.ok target, after) := ran
      refine foundOrNew_ok (some handle) known settled (fun other given => ?_) chose
      obtain rfl := Option.some.inj given
      exact held
  · obtain ⟨found, loaded, loads, ran⟩ := Action.run_bind_ok_iff.mp ran
    have reading := untouched_loadIdentity model id
      (source.key.getD ((source.get? Attribute.identity.name).getD .null)) before
    rw [loads] at reading
    obtain ⟨knownLoaded, settled, same⟩ := reading known settled
    rw [← same]
    refine foundOrNew_ok found knownLoaded settled (fun other given => ?_) ran
    exact attached_of_loadIdentity known (Option.mem_def.mp given ▸ loads)

theorem merge_ok {record merged : Handle} (known : id < before.sessions.length)
    (settled : Settled id before) (ran : (merge model id record).run before = (.ok merged, after)) :
    after.table = before.table ∧ SettledBut id [merged] after ∧ Knows id merged after := by
  obtain ⟨_, flushed, flushes, ran⟩ := Action.run_bind_ok_iff.mp ran
  rw [flushBeforeQuery, run_flushWith_settled settled] at flushes
  obtain ⟨_, rfl⟩ := Prod.mk.inj flushes
  rw [Action.run_bind_ok (Action.run_get _)] at ran
  obtain ⟨target, middle, targets, ran⟩ := Action.run_bind_ok_iff.mp ran
  obtain ⟨table, left, there⟩ := mergeTarget_ok known settled targets
  split at ran
  · obtain ⟨_, edited, edits, last⟩ := Action.run_bind_ok_iff.mp ran
    obtain ⟨_, rfl⟩ := Prod.mk.inj edits
    obtain ⟨rfl, rfl⟩ := Action.run_pure_ok_iff.mp last
    exact ⟨table, settledBut_changeRecord (fun record => Record.key_setAll _ record) left, there⟩
  · obtain ⟨rfl, rfl⟩ := Action.run_pure_ok_iff.mp ran
    exact ⟨table, left, there⟩

theorem saves_of_flushWith {record : Handle} {duringQuery : Bool}
    (left : SettledBut id [record] before) (there : Knows id record before)
    (ran : (flushWith model id (some record) duringQuery).run before = (.ok (), after)) :
    Relation.TransGen (Table.Saves model) before.table after.table := by
  have only : ∀ other ∈ before.changedRecords id (some record), other = record := by
    intro other listed
    obtain ⟨held, changed | stamped⟩ := mem_changedRecords.mp listed
    · exact List.mem_singleton.mp (left.changed other held changed)
    · exact (Option.some.inj stamped).symm
  have written : before.changedRecords id (some record) ≠ [] ∨ (before.session id).pending ≠ [] := by
    rcases there with held | waiting
    · exact .inl (List.ne_nil_of_mem (mem_changedRecords.mpr ⟨held, .inr rfl⟩))
    · exact .inr (List.ne_nil_of_mem waiting)
  rcases flushWith_ok ran with ⟨unchanged, nothing, _⟩ | ⟨last, wrote, rfl⟩
  · rcases written with written | written
    · exact absurd unchanged written
    · exact absurd nothing written
  · have settle (middle : Workspace) (handle : Handle) :
        Steady id middle (middle.settleRecord id handle) := steady_settleRecord id handle middle
    have settles := related_foldl settle
      (before.changedRecords id (some record) ++ (before.session id).pending) last
    rw [settles.table, ← table_begun before id]
    exact saves_writeRecords only written wrote

end Workspace

namespace Repository

open Workspace

variable {repository : Repository} {unit : UnitOfWork SessionId} {id : SessionId}
  {before after : Workspace} {record saved : Handle}

theorem saveIn_saves (known : id < before.sessions.length) (settled : Settled id before)
    (ran : (repository.saveIn record id).run before = (.ok saved, after)) :
    Relation.TransGen (Table.Saves repository.model) before.table after.table := by
  obtain ⟨merged, middle, merges, ran⟩ := Action.run_bind_ok_iff.mp ran
  obtain ⟨_, flushed, flushes, ran⟩ := Action.run_bind_ok_iff.mp ran
  obtain ⟨_, refreshed, refreshes, last⟩ := Action.run_bind_ok_iff.mp ran
  obtain ⟨_, rfl⟩ := Prod.mk.inj last
  obtain ⟨table, left, there⟩ := merge_ok known settled merges
  have keyless : middle.Keyless id := .inr fun handle waiting => (left.pending handle waiting).2
  have settledAfter := settled_of_refresh left.known keyless flushes refreshes
  rw [(refresh_ok settledAfter refreshes).1, ← table]
  exact saves_of_flushWith left there flushes

theorem save_joined (ran : (repository.save record (some unit)).run before = (.ok saved, after)) :
    ∃ id inside, unit.session = some id ∧
      (repository.saveIn record id).run before = (.ok saved, inside) ∧
      after.records = inside.records ∧ after.table = inside.table := by
  obtain ⟨identity, start, reads, rest⟩ := Action.run_bind_ok_iff.mp ran
  obtain rfl := readIdentity_ok reads
  split at rest
  · obtain ⟨_, _, _, failed⟩ := Action.run_bind_ok_iff.mp rest
    cases failed
  · obtain ⟨merged, stored, saves, logs⟩ := Action.run_bind_ok_iff.mp rest
    obtain ⟨_, logged, logging, done⟩ := Action.run_bind_ok_iff.mp logs
    obtain ⟨rfl, rfl⟩ := Action.run_pure_ok_iff.mp done
    obtain ⟨journal, rfl⟩ := debugRecord_ok logging
    cases held : unit.session with
    | none =>
        obtain ⟨_, _, enters, _⟩ := Action.run_bind_ok_iff.mp saves
        rw [sessionOf, held] at enters
        cases enters
    | some id =>
        rw [changing_joined held] at saves
        exact ⟨id, stored, rfl, saves, rfl, rfl⟩

theorem save_saves (held : unit.session = some id) (known : id < before.sessions.length)
    (quiet : before.Quiet id)
    (ran : (repository.save record (some unit)).run before = (.ok saved, after)) :
    HoldsRow repository.model saved after ∧ (Settled id before →
      Relation.TransGen (Table.Saves repository.model) before.table after.table) := by
  obtain ⟨_, inside, joined, saves, records, table⟩ := save_joined ran
  obtain rfl := Option.some.inj (held.symm.trans joined)
  rw [HoldsRow, Workspace.record, records, table, ← Workspace.record]
  exact ⟨(saveIn_stored known quiet saves).holds, fun settled => saveIn_saves known settled saves⟩

end Repository
end RecordStore
