/-!
Sort directions.
-/

namespace RecordStore

inductive Direction where
  | ascending
  | descending
  deriving DecidableEq, Repr, Inhabited

namespace Direction

def name : Direction → String
  | .ascending => "ASC"
  | .descending => "DESC"

def ofName? (name : String) : Option Direction :=
  [ascending, descending].find? fun direction => direction.name == name

theorem ofName?_name (direction : Direction) : ofName? direction.name = some direction := by
  cases direction <;> decide

end Direction
end RecordStore
