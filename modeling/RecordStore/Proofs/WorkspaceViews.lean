import RecordStore.Session.Query

/-!
Views of a workspace: what each change of a record or of a session does to the table, to the other
records and to the other sessions.
-/

namespace RecordStore
namespace Workspace

section Views

variable (workspace : Workspace) (id : SessionId) (handle : Handle)
  (change : Session → Session) (edit : Record → Record)

@[simp] theorem table_changeSession : (workspace.changeSession id change).table = workspace.table :=
  rfl

@[simp] theorem records_changeSession :
    (workspace.changeSession id change).records = workspace.records := rfl

@[simp] theorem length_sessions_changeSession :
    (workspace.changeSession id change).sessions.length = workspace.sessions.length :=
  List.length_modify _ _ _

@[simp] theorem sessions_changeRecord :
    (workspace.changeRecord handle edit).sessions = workspace.sessions := rfl

@[simp] theorem session_changeRecord (other : SessionId) :
    (workspace.changeRecord handle edit).session other = workspace.session other := rfl

variable {workspace id}

theorem session_changeSession_self (known : id < workspace.sessions.length) :
    (workspace.changeSession id change).session id = change (workspace.session id) := by
  simp [session, changeSession, known]

theorem session_changeSession_of_ne {other : SessionId} (distinct : other ≠ id) :
    (workspace.changeSession id change).session other = workspace.session other := by
  simp [session, changeSession, distinct.symm]

theorem session_changeSession_part {α : Type} (part : Session → α)
    (kept : ∀ session, part (change session) = part session) (other : SessionId) :
    part ((workspace.changeSession id change).session other) = part (workspace.session other) := by
  simp only [session, changeSession, List.getElem?_modify]
  split
  · cases workspace.sessions[other]? with
    | none => rfl
    | some session => exact kept session
  · cases workspace.sessions[other]? <;> rfl

theorem record_changeRecord (other : Handle) :
    (workspace.changeRecord handle edit).record other =
      if other = handle ∧ handle < workspace.records.length then edit (workspace.record handle)
      else workspace.record other := by
  simp only [record, changeRecord, List.getElem?_modify]
  by_cases same : other = handle
  · subst same
    by_cases known : other < workspace.records.length
    · simp [known]
    · simp [known]
  · simp [same, Ne.symm same]

theorem record_of_le {other : Handle} (unknown : workspace.records.length ≤ other) :
    workspace.record other = default := by
  simp [record, List.getElem?_eq_none unknown]

theorem session_of_le {other : SessionId} (unknown : workspace.sessions.length ≤ other) :
    workspace.session other = {} := by
  simp [session, List.getElem?_eq_none unknown]
  rfl

@[simp] theorem records_attach : (workspace.attach id handle).records = workspace.records := rfl

@[simp] theorem length_sessions_attach :
    (workspace.attach id handle).sessions.length = workspace.sessions.length :=
  List.length_modify _ _ _

@[simp] theorem pending_attach (other : SessionId) :
    ((workspace.attach id handle).session other).pending = (workspace.session other).pending := by
  refine session_changeSession_part _ Session.pending ?_ other
  exact fun _ => rfl

@[simp] theorem transaction_attach (other : SessionId) :
    ((workspace.attach id handle).session other).transaction =
      (workspace.session other).transaction := by
  refine session_changeSession_part _ Session.transaction ?_ other
  exact fun _ => rfl

theorem mem_attached_attach {other : Handle} (known : id < workspace.sessions.length)
    (found : other ∈ ((workspace.attach id handle).session id).attached) :
    other = handle ∨ other ∈ (workspace.session id).attached := by
  simp only [attach, session_changeSession_self _ known, List.mem_append, List.mem_filter,
    List.mem_singleton] at found
  exact found.elim (fun kept => .inr kept.1) .inl

end Views

end Workspace
end RecordStore
