import RecordStore.Proofs.Paging

/-!
Windows of pages. Up to the last page they follow each other without a gap and share no record; where
the count of records is large, the number of the last page is that of a rounded quotient, which keeps
the order of quotients and fails only where it grows too large.
-/

namespace RecordStore

def PageWindow.Shows (window : PageWindow) (record : Int) : Prop :=
  window.first ≤ record ∧ record ≤ window.last

theorem pageNumber_pos (page : Int) : 0 < pageNumber page := by
  unfold pageNumber
  omega

section Window

variable {total page rows : Int} {window : PageWindow}

theorem pageWindow_ok_iff :
    pageWindow total page rows = .ok window ↔
      lastPage total (pageSize rows) = .ok window.lastPage ∧
        numberedWindow page rows window.lastPage = window := by
  rw [pageWindow_eq, map_eq_ok_iff]
  constructor
  · rintro ⟨last, ended, rfl⟩
    exact ⟨ended, rfl⟩
  · rintro ⟨ended, shown⟩
    exact ⟨window.lastPage, ended, shown⟩

theorem pageWindow_next (shown : pageWindow total page rows = .ok window) : ∃ next,
    pageWindow total (window.page + 1) rows = .ok next ∧ next.first = window.last + 1 := by
  obtain ⟨ended, content⟩ := pageWindow_ok_iff.mp shown
  have number : window.page = pageNumber page := (congrArg PageWindow.page content).symm
  have last : window.last = pageNumber page * pageSize rows :=
    (congrArg PageWindow.last content).symm
  have pagePos : 0 < pageNumber page + 1 := by
    have := pageNumber_pos page
    omega
  rw [pageWindow_eq, ended, number, last]
  refine ⟨_, rfl, ?_⟩
  rw [numberedWindow, pageNumber_of_pos pagePos, add_sub_cancel_right]

end Window

theorem lastPage_ok_iff {total : Nat} {rows : Int} (rowsPos : 0 < rows) {last : Int} :
    lastPage total rows = .ok last ↔ (total : ℚ) / rows < Double.overflowThreshold ∧
      ⌈Double.roundedQuotient total rows.toNat⌉ = last := by
  rw [lastPage_eq total rowsPos]
  split_ifs with large
  · exact iff_of_false nofun fun small => absurd small.1 (not_lt.mpr large)
  · rw [Except.ok.injEq, and_iff_right (not_le.mp large)]

theorem lastPage_mono {total total' : Nat} {rows rows' last last' : Int} (rowsPos : 0 < rows)
    (rowsPos' : 0 < rows') (ordered : (total : ℚ) / rows ≤ (total' : ℚ) / rows')
    (ended : lastPage total rows = .ok last) (ended' : lastPage total' rows' = .ok last') :
    last ≤ last' := by
  obtain ⟨_, rfl⟩ := (lastPage_ok_iff rowsPos).mp ended
  obtain ⟨_, rfl⟩ := (lastPage_ok_iff rowsPos').mp ended'
  obtain ⟨count, rfl⟩ := Int.eq_ofNat_of_zero_le rowsPos.le
  obtain ⟨count', rfl⟩ := Int.eq_ofNat_of_zero_le rowsPos'.le
  exact Int.ceil_le_ceil (Double.roundedQuotient_mono (by exact_mod_cast rowsPos)
    (by exact_mod_cast rowsPos') (by simpa using ordered))

theorem lastPage_zero {rows last : Int} (rowsPos : 0 < rows)
    (ended : lastPage (0 : Nat) rows = .ok last) : last = 0 := by
  obtain ⟨_, rfl⟩ := (lastPage_ok_iff rowsPos).mp ended
  rw [Double.roundedQuotient, if_pos rfl, Int.ceil_zero]

theorem pageWindow_widen {total : Nat} {page rows other wider : Int} {window : PageWindow}
    (shown : pageWindow total page rows = .ok window) (rowsPos : 0 < rows) (wide : rows ≤ wider) :
    ∃ later, pageWindow total other wider = .ok later ∧ later.lastPage ≤ window.lastPage := by
  have widerPos : 0 < wider := by omega
  obtain ⟨ended, _⟩ := pageWindow_ok_iff.mp shown
  rw [pageSize_of_pos rowsPos] at ended
  have smaller : (total : ℚ) / wider ≤ (total : ℚ) / rows :=
    div_le_div_of_nonneg_left (by positivity) (by exact_mod_cast rowsPos) (by exact_mod_cast wide)
  have inRange := ((lastPage_ok_iff rowsPos).mp ended).1
  have ended' := (lastPage_ok_iff widerPos).mpr ⟨smaller.trans_lt inRange, rfl⟩
  refine ⟨numberedWindow other wider _, ?_, lastPage_mono widerPos rowsPos smaller ended' ended⟩
  rw [pageWindow_ok_iff, pageSize_of_pos widerPos]
  exact ⟨ended', rfl⟩

theorem pageWindow_of_lt {total : Nat} {rows : Int} (page : Int)
    (small : (total : ℚ) / pageSize rows < Double.overflowThreshold) :
    ∃ window, pageWindow total page rows = .ok window := by
  rw [pageWindow_eq, lastPage_eq total (pageSize_pos rows), if_neg (not_le.mpr small)]
  exact ⟨_, rfl⟩

/-- A window is refused only where the quotient is too large, whatever the page. Every other window
counts its pages in the order of the quotients and starts at the exact offset of its page. -/
theorem window_is_refused_only_by_overflow (total : Nat) (page rows : Int) :
    (2 ^ 1024 - 2 ^ 970 ≤ (total : ℚ) / pageSize rows →
      pageWindow total page rows = .error .quotientTooLarge) ∧
    ((total : ℚ) / pageSize rows < 2 ^ 1024 - 2 ^ 970 → ∃ window,
      pageWindow total page rows = .ok window ∧
      (total = 0 → window.lastPage = 0) ∧
      (∀ (more : Nat) (other : Int) (later : PageWindow), total ≤ more →
        pageWindow more other rows = .ok later → window.lastPage ≤ later.lastPage) ∧
      (∀ wider other : Int, 0 < rows → rows ≤ wider → ∃ later,
        pageWindow total other wider = .ok later ∧ later.lastPage ≤ window.lastPage) ∧
      window.page = pageNumber page ∧ window.rows = pageSize rows ∧
      window.offset = (window.page - 1) * window.rows ∧ 0 ≤ window.offset ∧
      ∃ next, pageWindow total (window.page + 1) rows = .ok next ∧
        next.first = window.last + 1) := by
  have sizePos := pageSize_pos rows
  refine ⟨fun (large : Double.overflowThreshold ≤ _) => ?_, fun small => ?_⟩
  · rw [pageWindow_eq, lastPage_eq total sizePos, if_pos large]
    rfl
  obtain ⟨window, shown⟩ := pageWindow_of_lt page small
  obtain ⟨ended, content⟩ := pageWindow_ok_iff.mp shown
  refine ⟨window, shown, ?_, ?_, fun wider other rowsPos wide => pageWindow_widen shown rowsPos wide,
    ?_, ?_, ?_, ?_, pageWindow_next shown⟩
  · rintro rfl
    exact lastPage_zero sizePos ended
  · intro more other later grown shown'
    have ordered : (total : ℚ) / pageSize rows ≤ (more : ℚ) / pageSize rows :=
      div_le_div_of_nonneg_right (by exact_mod_cast grown) (by exact_mod_cast sizePos.le)
    exact lastPage_mono sizePos sizePos ordered ended (pageWindow_ok_iff.mp shown').1
  · rw [← content]
    rfl
  · rw [← content]
    rfl
  · rw [← content]
    rfl
  · have first := pageNumber_pos page
    rw [← content]
    exact Int.mul_nonneg (by omega) sizePos.le

theorem second_page_of_seven : ∃ window, pageWindow 7 2 3 = .ok window ∧
    window = ⟨2, 3, 3, 3, 4, 6⟩ ∧
    ∃ next, pageWindow 7 3 3 = .ok next ∧ next.first = 7 := by
  have small : ((7 : Nat) : ℚ) / pageSize 3 < 2 ^ 1024 - 2 ^ 970 := by
    have size : pageSize 3 = 3 := rfl
    rw [size]
    calc ((7 : Nat) : ℚ) / (3 : Int) < 2 ^ 53 := by norm_num
      _ < 2 ^ 1024 - 2 ^ 970 := Double.two_pow_lt_overflowThreshold
  obtain ⟨window, shown, _, _, _, number, _, _, _, next, shown', follows⟩ :=
    (window_is_refused_only_by_overflow 7 2 3).2 small
  have content : window = ⟨2, 3, 3, 3, 4, 6⟩ := by
    have evaluated : pageWindow 7 2 3 = .ok ⟨2, 3, 3, 3, 4, 6⟩ := by rfl
    exact Except.ok.inj (shown.symm.trans evaluated)
  subst content
  exact ⟨_, shown, rfl, next, shown', follows⟩

section Exact

variable {total : Nat} {rows : Int}

def exactWindow (total : Nat) (rows page : Int) : PageWindow :=
  numberedWindow page rows (pageCount total rows)

theorem pageWindow_eq_exactWindow (small : total ≤ 2 ^ 53) (bounded : rows < 2 ^ 63) (page : Int) :
    pageWindow total page rows = .ok (exactWindow total rows page) := by
  rw [pageWindow_eq, lastPage_eq_ceil small (pageSize_pos rows) (pageSize_lt bounded), exactWindow,
    cast_pageCount]
  rfl

theorem exactWindow_shows_iff {page record : Int} (pagePos : 0 < page) :
    (exactWindow total rows page).Shows record ↔ (record - 1) / pageSize rows = page - 1 := by
  have sizePos := pageSize_pos rows
  have width : page * pageSize rows = (page - 1) * pageSize rows + pageSize rows := by ring
  -- Records and pages are counted from one on, quotients from zero.
  have quotient : (record - 1) / pageSize rows = page - 1 ↔
      (page - 1) * pageSize rows ≤ record - 1 ∧ record - 1 < page * pageSize rows := by
    rw [← Int.le_ediv_iff_mul_le sizePos, ← Int.ediv_lt_iff_lt_mul sizePos]
    omega
  rw [quotient, PageWindow.Shows, exactWindow, numberedWindow, pageNumber_of_pos pagePos]
  dsimp only
  omega

theorem exactWindow_contiguous {page : Int} (pagePos : 0 < page) :
    (exactWindow total rows (page + 1)).first = (exactWindow total rows page).last + 1 := by
  rw [exactWindow, exactWindow, numberedWindow, numberedWindow, pageNumber_of_pos pagePos,
    pageNumber_of_pos (by omega), add_sub_cancel_right]

theorem exactWindow_disjoint {left right : Int} (leftPos : 0 < left) (before : left < right) :
    (exactWindow total rows left).last < (exactWindow total rows right).first := by
  rw [exactWindow, exactWindow, numberedWindow, numberedWindow, pageNumber_of_pos leftPos,
    pageNumber_of_pos (by omega)]
  exact Int.lt_add_one_of_le
    (Int.mul_le_mul_of_nonneg_right (by omega) (pageSize_pos rows).le)

theorem existsUnique_exactWindow {record : Int} (first : 1 ≤ record) (last : record ≤ total) :
    ∃! page : Int, (1 ≤ page ∧ page ≤ pageCount total rows) ∧
      (exactWindow total rows page).Shows record := by
  have sizePos := pageSize_pos rows
  have reached := le_pageCount_mul total rows
  have nonneg : 0 ≤ (record - 1) / pageSize rows := Int.ediv_nonneg (by omega) sizePos.le
  have below : (record - 1) / pageSize rows < pageCount total rows := by
    rw [Int.ediv_lt_iff_lt_mul sizePos]
    omega
  refine ⟨(record - 1) / pageSize rows + 1, ⟨by omega, ?_⟩, ?_⟩
  · rw [exactWindow_shows_iff (by omega), add_sub_cancel_right]
  · rintro page ⟨inside, shows⟩
    rw [exactWindow_shows_iff (by omega)] at shows
    omega

theorem exactWindow_last_shows (someRecords : 0 < total) : 1 ≤ pageCount total rows ∧
    (exactWindow total rows (pageCount total rows)).Shows total := by
  have sizePos := pageSize_pos rows
  have reached := le_pageCount_mul total rows
  have countPos : 0 < pageCount total rows := by
    refine Nat.pos_of_ne_zero fun none => ?_
    rw [none] at reached
    omega
  have before : pageCount total rows - 1 < pageCount total rows := by omega
  have start := mul_pageSize_lt before
  rw [Int.natCast_sub countPos] at start
  refine ⟨countPos, ?_⟩
  rw [PageWindow.Shows, exactWindow, numberedWindow, pageNumber_of_pos (by omega)]
  exact ⟨Int.add_one_le_of_lt start, reached⟩

end Exact

/-- For a list of at most `2 ^ 53` records the number of the last page is the exact ceiling of the
quotient. The pages from the first to the last one then follow each other without a gap, share no
record, and have every record of the list on exactly one of them. -/
theorem windows_tile_the_records {total : Nat} {rows : Int} (small : total ≤ 2 ^ 53)
    (bounded : rows < 2 ^ 63) : ∃ (last : Int) (windows : Int → PageWindow),
      last = ⌈(total : ℚ) / pageSize rows⌉ ∧
      (∀ page, pageWindow total page rows = .ok (windows page) ∧ (windows page).lastPage = last) ∧
      (windows 1).first = 1 ∧
      (∀ page, 1 ≤ page → (windows (page + 1)).first = (windows page).last + 1) ∧
      (∀ left right, 1 ≤ left → left < right → (windows left).last < (windows right).first) ∧
      (∀ record : Int, 1 ≤ record → record ≤ total → ∃! page, (1 ≤ page ∧ page ≤ last) ∧
        (windows page).Shows record) ∧
      (0 < total → 1 ≤ last ∧ (windows last).Shows total) := by
  refine ⟨pageCount total rows, exactWindow total rows, cast_pageCount total rows,
    fun page => ⟨pageWindow_eq_exactWindow small bounded page, rfl⟩, ?_,
    fun page pagePos => exactWindow_contiguous pagePos,
    fun left right leftPos before => exactWindow_disjoint leftPos before,
    fun record first last => existsUnique_exactWindow first last, fun someRecords => ?_⟩
  · rw [exactWindow, numberedWindow, pageNumber_of_pos one_pos, sub_self, zero_mul, zero_add]
  · exact_mod_cast exactWindow_last_shows someRecords

/-- A third page, although the quotient is the least number after two. -/
theorem third_page_just_after_two : (2 ^ 53 : Nat) ≤ 2 ^ 53 ∧ (2 ^ 52 - 1 : Int) < 2 ^ 63 ∧
    ∃ windows : Int → PageWindow,
      (∀ page, pageWindow (2 ^ 53 : Nat) page (2 ^ 52 - 1) = .ok (windows page) ∧
        (windows page).lastPage = 3) ∧
      (windows 3).Shows (2 ^ 53 : Nat) := by
  have bounded : (2 ^ 52 - 1 : Int) < 2 ^ 63 := by norm_num
  obtain ⟨last, windows, ceiling, shown, _, _, _, _, final⟩ :=
    windows_tile_the_records le_rfl bounded
  have third : last = 3 := by
    rw [ceiling, pageSize_of_pos (by norm_num), Int.ceil_eq_iff]
    norm_num
  subst third
  exact ⟨le_rfl, bounded, windows, shown, (final (by norm_num)).2⟩

end RecordStore
