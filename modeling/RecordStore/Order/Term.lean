import RecordStore.Model.Basic
import RecordStore.Text.Case
import RecordStore.Value.Display

/-!
Sort terms. Columns and directions are paired by position; a direction that is not the name of
one, in letters of either case, leaves the order to the store.
-/

namespace RecordStore

structure SortTerm where
  column : String
  direction : Option Direction := none
  deriving DecidableEq, Repr

namespace SortTerm

def toText (term : SortTerm) : String :=
  match term.direction with
  | none => term.column
  | some direction => term.column ++ " " ++ direction.name

def direction? (value : Value) : Option Direction :=
  Direction.ofName? (Text.upper value.plain)

/-- One term for each column; directions beyond the columns are ignored. -/
def compile : List String → List Value → List SortTerm
  | [], _ => []
  | column :: columns, [] => ⟨column, none⟩ :: compile columns []
  | column :: columns, value :: values => ⟨column, direction? value⟩ :: compile columns values

def resolve (model : Model) (terms : List SortTerm) :
    Except Failure (List (Attribute × Option Direction)) :=
  terms.mapM fun term => (model.resolve term.column).map fun attr => (attr, term.direction)

end SortTerm
end RecordStore
