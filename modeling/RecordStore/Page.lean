import RecordStore.Failure.Basic
import RecordStore.Number.Double

/-!
Pages of a list of records. A page has a number from one on and a count of rows; its window says
which records it shows. The number of the last page is the ceiling of a rounded quotient.
-/

namespace RecordStore

def defaultPageRows : Int := 25

structure PageWindow where
  page : Int
  rows : Int
  offset : Int
  lastPage : Int
  first : Int
  last : Int
  deriving DecidableEq, Repr

def normalisePage (page rows : Int) : Int × Int :=
  (if page ≤ 0 then 1 else page, if rows ≤ 0 then defaultPageRows else rows)

def roundedQuotient? (total rows : Int) : Option Double :=
  Double.ofQuotient? (total < 0) total.natAbs rows.natAbs

/-- The number of the last page: the ceiling of the rounded quotient. -/
def lastPage (total rows : Int) : Except Failure Int :=
  match (roundedQuotient? total rows).bind Double.ceil? with
  | some pages => .ok pages
  | none => .error .quotientTooLarge

/-- The window of a page over `total` records. Its last record is that of a full page, also where
the records end before. -/
def pageWindow (total page rows : Int) : Except Failure PageWindow :=
  let (page, rows) := normalisePage page rows
  let offset := page * rows - rows
  (lastPage total rows).map fun pages => ⟨page, rows, offset, pages, offset + 1, offset + rows⟩

structure PagedResult (α : Type) where
  total : Int
  rows : Int
  page : Int
  lastPage : Int
  first : Int
  last : Int
  data : α
  deriving Repr

namespace PagedResult

def ofWindow {α : Type} (window : PageWindow) (total : Int) (data : α) : PagedResult α :=
  ⟨total, window.rows, window.page, window.lastPage, window.first, window.last, data⟩

def wireNumbers {α : Type} (result : PagedResult α) : List (String × Int) :=
  [("total_data", result.total), ("rows", result.rows), ("current_page", result.page),
    ("last_page", result.lastPage), ("from", result.first), ("to", result.last)]

def describe {α : Type} (dataText : α → String) (result : PagedResult α) : String :=
  "PagedFindResult(total_data=" ++ toString result.total ++ ", rows=" ++ toString result.rows ++
    ", current_page=" ++ toString result.page ++ ", last_page=" ++ toString result.lastPage ++
    ", from_=" ++ toString result.first ++ ", to=" ++ toString result.last ++
    ", data=" ++ dataText result.data ++ ")"

end PagedResult
end RecordStore
