import RecordStore.Model.Samples
import RecordStore.Proofs.RepositoryReads

/-!
Reads of requests that no statement can be made of. A list is refused before anything is read. So is a
page whose filter or clauses are at fault; but the rows of a page are counted before its order is looked
at, so that what the count is refused for is told in the place of a fault of the order.
-/

namespace RecordStore
namespace Repository

open Workspace

def restriction (repository : Repository) (catalogue : Catalogue) (request : Request) :
    Except Failure (List Predicate) := do
  let clauses ← compileFilter catalogue request.filter
  repository.registry.compileClauses repository.model clauses

def ordering (repository : Repository) (request : Request) :
    Except Failure (List (Attribute × Option Direction)) :=
  SortTerm.resolve repository.model (SortTerm.compile request.order request.directions)

def statement (repository : Repository) (catalogue : Catalogue) (request : Request)
    (limit offset : Int) : Except Failure Selection := do
  let clauses ← compileFilter catalogue request.filter
  buildSelection repository.registry repository.model clauses
    (SortTerm.compile request.order request.directions) limit offset

/-- What is told of a page whose order is at fault: the rows are counted before. -/
def toldOfPage (counting : Counting) (table : Table) (page size : Int) (fault : Failure) : Failure :=
  match counting.read table with
  | .error refusal => .store refusal
  | .ok total =>
    match pageWindow total page size with
    | .error refusal => refusal
    | .ok _ => fault

def withScope (scope : Scope) (workspace : Workspace) : Workspace :=
  match scope with
  | none => withSession workspace
  | some _ => workspace

section Requests

variable {repository : Repository} {catalogue : Catalogue} {request : Request} {scope : Scope}
  {workspace : Workspace} {failure : Failure}

theorem statement_eq_error_iff {limit offset : Int} :
    repository.statement catalogue request limit offset = .error failure ↔
      repository.restriction catalogue request = .error failure ∨
        ∃ predicates, repository.restriction catalogue request = .ok predicates ∧
          repository.ordering request = .error failure := by
  unfold statement restriction ordering
  cases compileFilter catalogue request.filter with
  | error fault => simp
  | ok clauses =>
      rw [ok_bind, ok_bind, buildSelection, bind_eq_error_iff]
      refine or_congr_right (exists_congr fun predicates => and_congr_right fun _ => ?_)
      rw [bind_eq_error_iff]
      exact or_iff_left (by simp [pure, Except.pure])

theorem run_findAll_refused {limit offset : Int}
    (refused : repository.statement catalogue request limit offset = .error failure) :
    (repository.findAll catalogue request limit offset scope).run workspace =
      (.error failure, workspace) := by
  rcases bind_eq_error_iff.mp refused with compiled | ⟨clauses, compiled, built⟩
  · simp only [findAll, Action.run_bind, Action.run_ofOutcome, compiled]
  · simp only [findAll, Action.run_bind, Action.run_ofOutcome, compiled, built]

theorem closeSession_withSession (workspace : Workspace) :
    (withSession workspace).closeSession workspace.sessions.length = withSession workspace := by
  have kept : (withSession workspace).restoreTable workspace.sessions.length =
      withSession workspace := by
    rw [restoreTable, session_withSession]
  rw [closeSession, kept]
  simp [changeSession, withSession, List.modify_eq_take_drop]

theorem run_reading_refused {α : Type} {body : SessionId → Action Workspace α}
    (readable : Readable scope workspace)
    (refused : ∀ id start, (body id).run start = (.error failure, start)) :
    (reading scope body).run workspace = (.error failure, withScope scope workspace) := by
  cases scope with
  | none =>
      rw [run_reading_own, refused]
      dsimp only
      rw [closeSession_withSession]
      rfl
  | some unit =>
      obtain ⟨id, held, _⟩ := readable
      rw [run_reading_joined held, refused]
      rfl

theorem run_reading_begun {α : Type} {body : SessionId → Action Workspace α}
    (readable : Readable scope workspace)
    (refused : ∀ id start, Ready id start → start.table = workspace.table →
      (body id).run start = (.error failure, start.begun id)) : ∃ after,
    (reading scope body).run workspace = (.error failure, after) ∧ Kept scope workspace after := by
  cases scope with
  | none =>
      have ready := ready_withSession workspace
      have closed : ((withSession workspace).session workspace.sessions.length).transaction =
          .closed := by
        rw [session_withSession]
      have table := table_closeSession (reads_begun ready.known) closed
      refine ⟨((withSession workspace).begun workspace.sessions.length).closeSession
        workspace.sessions.length, ?_, table, ?_⟩
      · rw [run_reading_own, refused _ _ ready rfl]
      · rw [records_closeSession, records_begun]
        exact List.prefix_refl _
  | some unit =>
      obtain ⟨id, held, ready⟩ := readable
      refine ⟨workspace.begun id, ?_, fun other held' => ?_⟩
      · rw [run_reading_joined held, refused id workspace ready rfl]
      · obtain rfl := Option.some.inj (held.symm.trans held')
        exact reads_begun ready.known

theorem run_pageBody_unordered {clauses : List Clause} {predicates : List Predicate}
    (compiled : repository.registry.compileClauses repository.model clauses = .ok predicates)
    (unordered : repository.ordering request = .error failure) (page size : Int) {id : SessionId}
    (ready : Ready id workspace) :
    (repository.pageBody clauses (SortTerm.compile request.order request.directions) page size
      id).run workspace =
      (.error (toldOfPage ⟨repository.model, predicates⟩ workspace.table page size failure),
        workspace.begun id) := by
  have counts : buildCounting repository.registry repository.model clauses =
      .ok ⟨repository.model, predicates⟩ := by
    rw [buildCounting, compiled]
    rfl
  have unbuilt (limit offset : Int) : buildSelection repository.registry repository.model clauses
      (SortTerm.compile request.order request.directions) limit offset = .error failure := by
    rw [ordering] at unordered
    rw [buildSelection, compiled, ok_bind, unordered, error_bind]
  simp only [pageBody, Action.run_bind, Action.run_ofOutcome, counts, run_countRows_eq ready,
    toldOfPage, unbuilt]
  cases (Counting.mk repository.model predicates).read workspace.table with
  | error refusal => rfl
  | ok total =>
      simp only [Except.mapError]
      cases pageWindow total page size <;> rfl

theorem run_findPage_refused (readable : Readable scope workspace) (page size : Int)
    (refused : repository.restriction catalogue request = .error failure) : ∃ after,
      (repository.findPage catalogue request page size scope).run workspace =
        (.error failure, after) ∧ (after = workspace ∨ after = withScope scope workspace) := by
  rcases bind_eq_error_iff.mp refused with compiled | ⟨clauses, compiled, uncompiled⟩
  · refine ⟨workspace, ?_, .inl rfl⟩
    simp only [findPage_eq, Action.run_bind, Action.run_ofOutcome, compiled]
  · have uncounted : buildCounting repository.registry repository.model clauses = .error failure := by
      rw [buildCounting, uncompiled, error_bind]
    have body (id : SessionId) (start : Workspace) : (repository.pageBody clauses
        (SortTerm.compile request.order request.directions) page size id).run start =
        (.error failure, start) := by
      simp only [pageBody, Action.run_bind, Action.run_ofOutcome, uncounted]
    refine ⟨withScope scope workspace, ?_, .inr rfl⟩
    simp only [findPage_eq, Action.run_bind, Action.run_ofOutcome, compiled,
      run_reading_refused readable body]

theorem run_findPage_unordered {predicates : List Predicate} (readable : Readable scope workspace)
    (page size : Int) (restricted : repository.restriction catalogue request = .ok predicates)
    (unordered : repository.ordering request = .error failure) : ∃ after,
      (repository.findPage catalogue request page size scope).run workspace =
        (.error (toldOfPage ⟨repository.model, predicates⟩ workspace.table page size failure),
          after) ∧ Kept scope workspace after := by
  obtain ⟨clauses, compiled, accepted⟩ := bind_eq_ok_iff.mp restricted
  obtain ⟨after, ran, kept⟩ := run_reading_begun readable fun id start ready same =>
    same ▸ run_pageBody_unordered accepted unordered page size ready
  refine ⟨after, ?_, kept⟩
  simp only [findPage_eq, Action.run_bind, Action.run_ofOutcome, compiled, ran]

end Requests

/-- A request that no statement can be made of fails as a list before anything is read. As a page it
fails alike if its filter or its clauses are at fault. If only its order is, the rows are counted
first: the failure is that of the count or of the window, if there is one. -/
theorem page_is_counted_before_it_is_ordered (repository : Repository) (catalogue : Catalogue)
    (request : Request) (limit offset page size : Int) {scope : Scope} {workspace : Workspace}
    (readable : Readable scope workspace) {failure : Failure}
    (refused : repository.statement catalogue request limit offset = .error failure) :
    (repository.findAll catalogue request limit offset scope).run workspace =
      (.error failure, workspace) ∧
    ((repository.restriction catalogue request = .error failure ∧ ∃ after,
        (repository.findPage catalogue request page size scope).run workspace =
          (.error failure, after) ∧ (after = workspace ∨ after = withScope scope workspace)) ∨
      ∃ predicates after, repository.restriction catalogue request = .ok predicates ∧
        repository.ordering request = .error failure ∧
        (repository.findPage catalogue request page size scope).run workspace =
          (.error (toldOfPage ⟨repository.model, predicates⟩ workspace.table page size failure),
            after) ∧ Kept scope workspace after) := by
  refine ⟨run_findAll_refused refused, ?_⟩
  rcases statement_eq_error_iff.mp refused with unrestricted | ⟨predicates, restricted, unordered⟩
  · exact .inl ⟨unrestricted, run_findPage_refused readable page size unrestricted⟩
  · obtain ⟨after, ran, kept⟩ :=
      run_findPage_unordered readable page size restricted unordered
    exact .inr ⟨predicates, after, restricted, unordered, ran, kept⟩

def ageFilters : Catalogue where
  fields := [⟨"age", some "age", .between⟩]
  classes := [
    ⟨Catalogue.rootName, [], [0], []⟩, ⟨"AgeFilter", [("age", .field 0)], [1, 0], [0]⟩]

def misordered (age : Int) : Request where
  filter := some ⟨1, [("age", .bounds (.integer age) (.integer age))]⟩
  order := ["nope"]

def unpeopled : Workspace where
  clock := default
  table := .empty

theorem misordered_page_tells_its_column : Readable none unpeopled ∧
    statement ⟨Samples.person, .standard⟩ ageFilters (misordered 30) 0 0 =
      .error (.unknownColumn "Person" "nope") ∧ ∃ after,
    (findPage ⟨Samples.person, .standard⟩ ageFilters (misordered 30) 1 25).run unpeopled =
      (.error (.unknownColumn "Person" "nope"), after) := by
  have readable : Readable none unpeopled := trivial
  have refused : statement ⟨Samples.person, .standard⟩ ageFilters (misordered 30) 0 0 =
    .error (.unknownColumn "Person" "nope") := rfl
  obtain ⟨_, told⟩ := page_is_counted_before_it_is_ordered ⟨Samples.person, .standard⟩ ageFilters
    (misordered 30) 0 0 1 25 readable refused
  refine ⟨readable, refused, ?_⟩
  rcases told with ⟨_, after, ran, _⟩ | ⟨_, after, restricted, _, ran, _⟩
  · exact ⟨after, ran⟩
  · obtain rfl := Except.ok.inj restricted
    exact ⟨after, ran⟩

/-- An age that the store cannot bind is told of in the place of the column. -/
theorem oversized_age_hides_the_unknown_column : ∃ after,
    (findAll ⟨Samples.person, .standard⟩ ageFilters (misordered 9223372036854775808) 0 0).run
      unpeopled = (.error (.unknownColumn "Person" "nope"), unpeopled) ∧
    (findPage ⟨Samples.person, .standard⟩ ageFilters (misordered 9223372036854775808) 1 25).run
      unpeopled = (.error (.store .integerTooLarge), after) ∧
    Failure.unknownColumn "Person" "nope" ≠ .store .integerTooLarge := by
  have readable : Readable none unpeopled := trivial
  have refused : statement ⟨Samples.person, .standard⟩ ageFilters (misordered 9223372036854775808)
    0 0 = .error (.unknownColumn "Person" "nope") := rfl
  have restricted : restriction ⟨Samples.person, .standard⟩ ageFilters
    (misordered 9223372036854775808) = .ok _ := rfl
  have unordered : ordering ⟨Samples.person, .standard⟩ (misordered 9223372036854775808) =
    .error (.unknownColumn "Person" "nope") := rfl
  obtain ⟨after, ran, _⟩ := run_findPage_unordered readable 1 25 restricted unordered
  exact ⟨after, run_findAll_refused refused, ran, nofun⟩

end Repository
end RecordStore
