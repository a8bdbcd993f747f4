/-!
The kinds of condition that a filter field can put on a column.
-/

namespace RecordStore

/-- How a field's value restricts its column: equal to it, containing it, between two bounds, or
equal to one of several. -/
inductive Condition where
  | equality
  | like
  | between
  | or
  deriving DecidableEq, Repr, Inhabited

namespace Condition

def all : List Condition := [.equality, .like, .between, .or]

def name : Condition → String
  | .equality => "EQUALITY"
  | .like => "LIKE"
  | .between => "BETWEEN"
  | .or => "OR"

def ofName? (name : String) : Option Condition :=
  all.find? fun condition => condition.name == name

theorem ofName?_name (condition : Condition) : ofName? condition.name = some condition := by
  cases condition <;> decide

end Condition
end RecordStore
