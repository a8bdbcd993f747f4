import Mathlib.Algebra.Order.Ring.Int
import RecordStore.Proofs.RepositoryReads

/-!
Listings: the rows that a request shows of a table, without a limit and an offset. Lists and pages of
the request are windows on its listing.
-/

namespace RecordStore

def Repository.Lists (repository : Repository) (catalogue : Catalogue) (request : Request)
    (table : Table) (rows : List Row) : Prop :=
  ∃ clauses predicates order, compileFilter catalogue request.filter = .ok clauses ∧
    repository.registry.compileClauses repository.model clauses = .ok predicates ∧
    SortTerm.resolve repository.model (SortTerm.compile request.order request.directions) =
      .ok order ∧
    (∀ place ∈ Predicate.wherePlaces repository.model predicates, Bindable place) ∧
    rows = (table.rows.filter (Predicate.allHold predicates)).mergeSort (mayPrecede order)

theorem buildSelection_ok_iff {registry : Registry} {model : Model} {clauses : List Clause}
    {terms : List SortTerm} {limit offset : Int} {selection : Selection} :
    buildSelection registry model clauses terms limit offset = .ok selection ↔
      ∃ predicates order, registry.compileClauses model clauses = .ok predicates ∧
        SortTerm.resolve model terms = .ok order ∧
        selection = ⟨model, predicates, order, positiveBound limit, positiveBound offset⟩ := by
  simp only [buildSelection, bind_eq_ok_iff, pure, Except.pure, Except.ok.injEq]
  constructor
  · rintro ⟨predicates, compiled, order, resolved, rfl⟩
    exact ⟨predicates, order, compiled, resolved, rfl⟩
  · rintro ⟨predicates, order, compiled, resolved, rfl⟩
    exact ⟨predicates, compiled, order, resolved, rfl⟩

theorem fits_positiveBound {bound : Int} (fits : bound < 2 ^ 63) :
    ∀ value ∈ positiveBound bound, Cell.fits value = true := by
  intro value found
  simp only [positiveBound, Option.mem_def, Option.ite_none_right_eq_some, Option.some.injEq] at found
  simp only [Cell.fits, Bool.and_eq_true, decide_eq_true_eq]
  omega

/-- A window of a listing: the rows from the offset on, up to the limit if that is positive. -/
def windowOf {α : Type} (limit offset : Int) (items : List α) : List α :=
  if 0 < limit then (items.drop offset.toNat).take limit.toNat else items.drop offset.toNat

theorem cutWindow_positiveBound {α : Type} (limit offset : Int) (items : List α) :
    cutWindow (positiveBound limit) (positiveBound offset) items = windowOf limit offset items := by
  have skipped : ((positiveBound offset).getD 0).toNat = offset.toNat := by
    simp only [positiveBound]
    split
    · rfl
    · simp only [Option.getD_none]
      omega
  simp only [cutWindow, skipped, windowOf]
  by_cases limited : 0 < limit
  · simp only [positiveBound, limited, if_true]
  · simp only [positiveBound, limited, if_false]

theorem read_window {model : Model} {predicates : List Predicate}
    (bindable : ∀ place ∈ Predicate.wherePlaces model predicates, Bindable place)
    {limit offset : Int} (limitFits : limit < 2 ^ 63) (offsetFits : offset < 2 ^ 63)
    (order : List (Attribute × Option Direction)) (table : Table) :
    (Selection.mk model predicates order (positiveBound limit) (positiveBound offset)).read table =
      .ok (windowOf limit offset
        ((table.rows.filter (Predicate.allHold predicates)).mergeSort (mayPrecede order))) := by
  refine Selection.read_ok_iff.mpr ⟨fun place found => ?_, cutWindow_positiveBound limit offset _⟩
  rw [Selection.places_tokens] at found
  rcases List.mem_append.mp found with inWhere | inWindow
  · exact bindable place inWhere
  · exact bindable_windowPlaces (fits_positiveBound limitFits) (fits_positiveBound offsetFits)
      place inWindow

namespace Repository

variable {repository : Repository} {catalogue : Catalogue} {request : Request} {scope : Scope}
  {workspace : Workspace} {rows : List Row}

theorem lists_of_findAll {after : Workspace} {handles : List Handle}
    (coherent : Coherent scope workspace)
    (ran : (repository.findAll catalogue request 0 0 scope).run workspace = (.ok handles, after)) :
    ∃ rows, repository.Lists catalogue request after.table rows ∧ Readable scope after ∧
      Presents repository.model scope after rows handles := by
  obtain ⟨clauses, selection, rows, compiled, built, read, readable, shown⟩ := findAll_ok coherent ran
  obtain ⟨predicates, order, predicated, ordered, rfl⟩ := buildSelection_ok_iff.mp built
  obtain ⟨bindable, selected⟩ := Selection.read_ok_iff.mp read
  rw [Selection.places_tokens] at bindable
  refine ⟨rows, ⟨clauses, predicates, order, compiled, predicated, ordered, ?_, ?_⟩, readable, shown⟩
  · exact fun place found => bindable place (List.mem_append_left _ found)
  · rw [← selected]
    rfl

theorem findAll_of_lists (lists : repository.Lists catalogue request workspace.table rows)
    (readable : Readable scope workspace) {limit offset : Int} (limitFits : limit < 2 ^ 63)
    (offsetFits : offset < 2 ^ 63) : ∃ handles after,
      (repository.findAll catalogue request limit offset scope).run workspace =
        (.ok handles, after) ∧ Kept scope workspace after ∧
      Presents repository.model scope after (windowOf limit offset rows) handles := by
  obtain ⟨clauses, predicates, order, compiled, predicated, ordered, bindable, rfl⟩ := lists
  exact run_findAll compiled
    (buildSelection_ok_iff.mpr ⟨predicates, order, predicated, ordered, rfl⟩)
    (read_window bindable limitFits offsetFits order workspace.table) readable

theorem findPage_of_lists (lists : repository.Lists catalogue request workspace.table rows)
    (readable : Readable scope workspace) {page size : Int} {window : PageWindow}
    (windowed : pageWindow rows.length page size = .ok window) (sizeFits : window.rows < 2 ^ 63)
    (offsetFits : window.offset < 2 ^ 63) : ∃ handles after,
      (repository.findPage catalogue request page size scope).run workspace =
        (.ok (.ofWindow window rows.length handles), after) ∧ Kept scope workspace after ∧
      Presents repository.model scope after (windowOf window.rows window.offset rows) handles := by
  obtain ⟨clauses, predicates, order, compiled, predicated, ordered, bindable, rfl⟩ := lists
  have counts : buildCounting repository.registry repository.model clauses =
      .ok ⟨repository.model, predicates⟩ := by
    simp [buildCounting, predicated, pure, Except.pure]
  have counted : (Counting.mk repository.model predicates).read workspace.table =
      .ok ((workspace.table.rows.filter (Predicate.allHold predicates)).mergeSort
        (mayPrecede order)).length := by
    refine Counting.read_ok_iff.mpr ⟨fun place found => ?_, ?_⟩
    · rw [Counting.places_tokens] at found
      exact bindable place found
    · rw [Counting.count, List.length_mergeSort]
  exact run_findPage compiled counts counted windowed
    (buildSelection_ok_iff.mpr ⟨predicates, order, predicated, ordered, rfl⟩)
    (read_window bindable sizeFits offsetFits order workspace.table) readable

end Repository
end RecordStore
