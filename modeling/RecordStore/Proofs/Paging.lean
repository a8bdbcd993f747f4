import RecordStore.Model.Samples
import RecordStore.Proofs.Listings
import RecordStore.Proofs.RoundedOrder

/-!
Pages of a listing. The pages from the first to the last one are its consecutive windows, so that
together they are the listing; later pages are empty.
-/

namespace RecordStore

def pageSize (rows : Int) : Int := if rows ≤ 0 then defaultPageRows else rows

theorem pageSize_pos (rows : Int) : 0 < pageSize rows := by
  simp only [pageSize, defaultPageRows]
  omega

theorem pageSize_of_pos {rows : Int} (rowsPos : 0 < rows) : pageSize rows = rows :=
  if_neg (by omega)

theorem pageSize_lt {rows : Int} (bounded : rows < 2 ^ 63) : pageSize rows < 2 ^ 63 := by
  simp only [pageSize, defaultPageRows]
  omega

def pageCount (total : Nat) (rows : Int) : Nat := ⌈(total : ℚ) / pageSize rows⌉.toNat

theorem cast_pageCount (total : Nat) (rows : Int) :
    (pageCount total rows : Int) = ⌈(total : ℚ) / pageSize rows⌉ := by
  have sizePos : (0 : ℚ) < pageSize rows := by exact_mod_cast pageSize_pos rows
  exact Int.toNat_of_nonneg (Int.ceil_nonneg (by positivity))

theorem le_pageCount_mul (total : Nat) (rows : Int) :
    (total : Int) ≤ pageCount total rows * pageSize rows := by
  have sizePos : (0 : ℚ) < pageSize rows := by exact_mod_cast pageSize_pos rows
  have reached : (total : ℚ) / pageSize rows ≤ (pageCount total rows : Int) := by
    rw [cast_pageCount]
    exact Int.le_ceil _
  rw [div_le_iff₀ sizePos] at reached
  exact_mod_cast reached

theorem mul_pageSize_lt {total index : Nat} {rows : Int} (before : index < pageCount total rows) :
    (index : Int) * pageSize rows < total := by
  have sizePos : (0 : ℚ) < pageSize rows := by exact_mod_cast pageSize_pos rows
  have below : (index : Int) < ⌈(total : ℚ) / pageSize rows⌉ := by
    rw [← cast_pageCount]
    exact_mod_cast before
  rw [Int.lt_ceil, lt_div_iff₀ sizePos] at below
  exact_mod_cast below

def pageNumber (page : Int) : Int := if page ≤ 0 then 1 else page

theorem pageNumber_of_pos {page : Int} (pagePos : 0 < page) : pageNumber page = page :=
  if_neg (by omega)

def numberedWindow (page rows last : Int) : PageWindow where
  page := pageNumber page
  rows := pageSize rows
  offset := (pageNumber page - 1) * pageSize rows
  lastPage := last
  first := (pageNumber page - 1) * pageSize rows + 1
  last := pageNumber page * pageSize rows

theorem pageWindow_eq (total page rows : Int) :
    pageWindow total page rows =
      (lastPage total (pageSize rows)).map (numberedWindow page rows) := by
  have offset : pageNumber page * pageSize rows - pageSize rows =
      (pageNumber page - 1) * pageSize rows := by ring
  show (lastPage total (pageSize rows)).map _ = _
  congr 1
  funext last
  show PageWindow.mk (pageNumber page) (pageSize rows) (pageNumber page * pageSize rows - pageSize rows)
    last (pageNumber page * pageSize rows - pageSize rows + 1)
    (pageNumber page * pageSize rows - pageSize rows + pageSize rows) = _
  rw [sub_add_cancel, offset]
  rfl

theorem pageWindow_ok {total : Nat} {page rows : Int} (small : total ≤ 2 ^ 53)
    (bounded : rows < 2 ^ 63) (pagePos : 0 < page) : ∃ window,
      pageWindow total page rows = .ok window ∧ window.rows = pageSize rows ∧
        window.offset = (page - 1) * pageSize rows ∧ window.lastPage = pageCount total rows := by
  rw [pageWindow_eq, lastPage_eq_ceil small (pageSize_pos rows) (pageSize_lt bounded)]
  refine ⟨_, rfl, rfl, ?_, (cast_pageCount total rows).symm⟩
  rw [numberedWindow, pageNumber_of_pos pagePos]

def pageOf {α : Type} (rows page : Int) (items : List α) : List α :=
  (items.drop ((page - 1) * pageSize rows).toNat).take (pageSize rows).toNat

theorem flatMap_windows {α : Type} (items : List α) (width count : Nat) :
    ((List.range count).flatMap fun index => (items.drop (index * width)).take width) =
      items.take (count * width) := by
  induction count with
  | zero => simp
  | succ count ih =>
      rw [List.range_succ, List.flatMap_append, ih, Nat.succ_mul, List.take_add]
      simp

theorem cast_index (index : Nat) : ((1 + index : Nat) : Int) - 1 = index := by
  push_cast
  ring

theorem flatMap_pageOf {α : Type} (items : List α) (rows : Int) :
    ((List.range' 1 (pageCount items.length rows)).flatMap fun (page : Nat) =>
      pageOf rows page items) = items := by
  have sizePos := pageSize_pos rows
  have reached := le_pageCount_mul items.length rows
  have offset (index : Nat) : ((index : Int) * pageSize rows).toNat =
      index * (pageSize rows).toNat := by
    rw [Int.toNat_mul (by omega) (by omega), Int.toNat_natCast]
  rw [List.range'_eq_map_range, List.flatMap_map]
  simp only [pageOf, cast_index, offset]
  rw [flatMap_windows, List.take_of_length_le]
  zify
  rw [Int.toNat_of_nonneg (by omega)]
  exact reached

theorem pageOf_eq_nil {α : Type} {items : List α} {rows page : Int}
    (beyond : pageCount items.length rows < page) : pageOf rows page items = [] := by
  have reached := le_pageCount_mul items.length rows
  have further : (pageCount items.length rows : Int) * pageSize rows ≤ (page - 1) * pageSize rows :=
    Int.mul_le_mul_of_nonneg_right (by omega) (pageSize_pos rows).le
  have passed : items.length ≤ ((page - 1) * pageSize rows).toNat := by omega
  rw [pageOf, List.drop_eq_nil_of_le passed, List.take_nil]

namespace Repository

def readPages (repository : Repository) (catalogue : Catalogue) (request : Request) (rows : Int)
    (scope : Scope) (pages : List Nat) : Action Workspace (List (PagedResult (List Handle))) :=
  pages.mapM fun (page : Nat) => repository.findPage catalogue request page rows scope

variable {repository : Repository} {catalogue : Catalogue} {request : Request} {scope : Scope}
  {workspace : Workspace} {listing : List Row} {rows : Int}

theorem readPages_cons (page : Nat) (pages : List Nat) :
    repository.readPages catalogue request rows scope (page :: pages) = (do
      let result ← repository.findPage catalogue request page rows scope
      let results ← repository.readPages catalogue request rows scope pages
      pure (result :: results)) :=
  List.mapM_cons

theorem run_findPage_of_lists (lists : repository.Lists catalogue request workspace.table listing)
    (readable : Readable scope workspace) (small : listing.length ≤ 2 ^ 53)
    (bounded : rows < 2 ^ 63) {page : Int} (pagePos : 0 < page)
    (reachable : (page - 1) * pageSize rows < 2 ^ 63) : ∃ result after,
      (repository.findPage catalogue request page rows scope).run workspace = (.ok result, after) ∧
        Kept scope workspace after ∧
        Presents repository.model scope after (pageOf rows page listing) result.data ∧
        result.total = listing.length ∧ result.lastPage = pageCount listing.length rows := by
  obtain ⟨window, windowed, size, offset, last⟩ := pageWindow_ok small bounded pagePos
  obtain ⟨handles, after, ran, kept, shown⟩ := findPage_of_lists lists readable windowed
    (size ▸ pageSize_lt bounded) (offset ▸ reachable)
  refine ⟨_, after, ran, kept, ?_, rfl, last⟩
  rw [windowOf, size, offset, if_pos (pageSize_pos rows)] at shown
  exact shown

theorem run_readPages_of_lists {pages : List Nat}
    (lists : repository.Lists catalogue request workspace.table listing)
    (readable : Readable scope workspace) (small : listing.length ≤ 2 ^ 53)
    (bounded : rows < 2 ^ 63) (reachable : ∀ page ∈ pages, 0 < page ∧
      ((page : Int) - 1) * pageSize rows < 2 ^ 63) : ∃ results after,
      (repository.readPages catalogue request rows scope pages).run workspace =
        (.ok results, after) ∧ Kept scope workspace after ∧
        Presents repository.model scope after
          (pages.flatMap fun (page : Nat) => pageOf rows page listing)
          (results.flatMap PagedResult.data) ∧
        ∀ result ∈ results,
          result.total = listing.length ∧ result.lastPage = pageCount listing.length rows := by
  induction pages generalizing workspace with
  | nil => exact ⟨[], workspace, rfl, .refl workspace, .nil, by simp⟩
  | cons page pages ih =>
      obtain ⟨first, reachableRest⟩ := List.forall_mem_cons.mp reachable
      obtain ⟨result, middle, ran, kept, shown, numbers⟩ :=
        run_findPage_of_lists lists readable small bounded (by exact_mod_cast first.1) first.2
      obtain ⟨results, after, ranRest, keptRest, shownRest, numbersRest⟩ :=
        ih (kept.table readable ▸ lists) (kept.still_readable readable) reachableRest
      refine ⟨result :: results, after, ?_, kept.trans keptRest, ?_,
        List.forall_mem_cons.mpr ⟨numbers, numbersRest⟩⟩
      · rw [readPages_cons, Action.run_bind_ok ran, Action.run_bind_ok ranRest]
        rfl
      · have later := keptRest.presents (kept.still_readable readable) shown
        rw [List.flatMap_cons, List.flatMap_cons]
        exact List.rel_append later shownRest

/-- Whether two reads gave the same list: in a given unit of work the same records, else records
that hold the same. -/
def SameRecords (scope : Scope) (read : Workspace) (handles : List Handle) (after : Workspace)
    (others : List Handle) : Prop :=
  match scope with
  | none => others.map after.record = handles.map read.record
  | some _ => others = handles

theorem sameRecords_of_presents {model : Model} {read after : Workspace} {handles others : List Handle}
    (shown : Presents model scope read listing handles) (kept : Kept scope read after)
    (readable : Readable scope read) (shown' : Presents model scope after listing others) :
    SameRecords scope read handles after others := by
  cases scope with
  | none => exact shown'.map_record.trans shown.map_record.symm
  | some unit => exact shown'.eq (kept.presents readable shown)

theorem Lists.length_le {table : Table} (lists : repository.Lists catalogue request table listing) :
    listing.length ≤ table.rows.length := by
  obtain ⟨_, _, _, _, _, _, _, rfl⟩ := lists
  rw [List.length_mergeSort]
  exact List.length_filter_le _ _

end Repository

open Repository

/-- The pages of a request, read one after the other from the first to the last, are together the
list that the request finds without a limit and an offset. Each page tells the length of that list
and the number of the last page, and a page after the last one is empty. -/
theorem pages_concatenate_to_the_list (repository : Repository) (catalogue : Catalogue)
    (request : Request) (scope : Scope) {rows : Int} (bounded : rows < 2 ^ 63)
    {workspace read : Workspace} {handles : List Handle} (coherent : Coherent scope workspace)
    (found : (repository.findAll catalogue request 0 0 scope).run workspace = (.ok handles, read))
    (small : read.table.rows.length ≤ 2 ^ 53) :
    ∃ (last : Nat) (pages : List (PagedResult (List Handle))) (after : Workspace),
      (repository.readPages catalogue request rows scope (List.range' 1 last)).run read =
        (.ok pages, after) ∧
      SameRecords scope read handles after (pages.flatMap PagedResult.data) ∧
      (∀ page ∈ pages, page.total = handles.length ∧ page.lastPage = last) ∧
      ∀ beyond : Int, last < beyond → (beyond - 1) * pageSize rows < 2 ^ 63 →
        ∃ page later,
          (repository.findPage catalogue request beyond rows scope).run after = (.ok page, later) ∧
            page.data = [] ∧ page.total = handles.length ∧ page.lastPage = last := by
  obtain ⟨listing, lists, readable, shown⟩ := lists_of_findAll coherent found
  have short : listing.length ≤ 2 ^ 53 := lists.length_le.trans small
  have sizePos := pageSize_pos rows
  have reachable : ∀ page ∈ List.range' 1 (pageCount listing.length rows), 0 < page ∧
      ((page : Int) - 1) * pageSize rows < 2 ^ 63 := by
    intro page listed
    obtain ⟨index, before, rfl⟩ := List.mem_range'.mp listed
    have start := mul_pageSize_lt before
    refine ⟨by omega, ?_⟩
    rw [Nat.one_mul, cast_index]
    omega
  obtain ⟨pages, after, ran, kept, shownPages, numbers⟩ :=
    run_readPages_of_lists lists readable short bounded reachable
  rw [flatMap_pageOf] at shownPages
  have length := shown.length_eq
  refine ⟨pageCount listing.length rows, pages, after, ran,
    sameRecords_of_presents shown kept readable shownPages, length ▸ numbers, ?_⟩
  intro beyond isBeyond offsetFits
  obtain ⟨page, later, ranLater, _, shownLater, total, lastPage⟩ :=
    run_findPage_of_lists (kept.table readable ▸ lists) (kept.still_readable readable) short bounded
      (by omega) offsetFits
  refine ⟨page, later, ranLater, ?_, length ▸ total, lastPage⟩
  rw [pageOf_eq_nil (by exact_mod_cast isBeyond)] at shownLater
  exact List.forall₂_nil_left_iff.mp shownLater

def threePeople : Workspace where
  clock := default
  table := {
    rows := [
      ⟨1, [("name", .text "Ada"), ("age", .integer 36), ("status", .text "active")]⟩,
      ⟨2, [("name", .text "Bob"), ("age", .integer 41), ("status", .text "active")]⟩,
      ⟨5, [("name", .text "Cleo"), ("age", .integer 36), ("status", .text "active")]⟩]
    sorted := by decide }

def oldestFirst : Request := { order := ["age"], directions := [.text "desc"] }

theorem three_people_on_pages_of_two : ∃ handles read,
    (Repository.findAll ⟨Samples.person, .standard⟩ .initial oldestFirst 0 0).run threePeople =
      (.ok handles, read) ∧ (2 : Int) < 2 ^ 63 ∧ read.table.rows.length ≤ 2 ^ 53 ∧
    ∃ (last : Nat) (pages : List (PagedResult (List Handle))) (after : Workspace),
      (Repository.readPages ⟨Samples.person, .standard⟩ .initial oldestFirst 2 none
        (List.range' 1 last)).run read = (.ok pages, after) ∧
      (pages.flatMap PagedResult.data).map after.record = handles.map read.record ∧
      ∀ page ∈ pages, page.total = 3 ∧ page.lastPage = last := by
  have lists : Repository.Lists ⟨Samples.person, .standard⟩ .initial oldestFirst threePeople.table
      _ := ⟨[], [], _, rfl, rfl, rfl, fun _ found => (List.not_mem_nil found).elim, rfl⟩
  have zeroFits : (0 : Int) < 2 ^ 63 := by decide
  obtain ⟨handles, read, found, kept, shown⟩ :=
    findAll_of_lists lists (show Readable none threePeople from trivial) zeroFits zeroFits
  have count : handles.length = 3 := by
    rw [← shown.length_eq]
    simp only [windowOf, lt_irrefl, if_false, Int.toNat_zero, List.drop_zero, List.length_mergeSort]
    rfl
  have small : read.table.rows.length ≤ 2 ^ 53 := by
    rw [kept.1]
    decide
  obtain ⟨last, pages, after, ran, same, numbers, _⟩ :=
    pages_concatenate_to_the_list ⟨Samples.person, .standard⟩ .initial oldestFirst none
      (show (2 : Int) < 2 ^ 63 by decide) trivial found small
  exact ⟨handles, read, found, by decide, small, last, pages, after, ran, same,
    fun page listed => ⟨by simpa [count] using (numbers page listed).1, (numbers page listed).2⟩⟩

end RecordStore
