import RecordStore.Model.Basic

/-!
Predicates on the rows of a model. A test looks at one column; a predicate holds when one of its
alternatives does. A predicate without alternatives restricts nothing and is left out where
predicates are joined.
-/

namespace RecordStore

inductive Comparison where
  | equal
  | notEqual
  | atLeast
  deriving DecidableEq, Repr, Inhabited

/-- A test of one column. Null and truth values are written as constants; all other operands are
bound. -/
inductive Test where
  | isNull (column : Attribute)
  | isNotNull (column : Attribute)
  | isTruth (column : Attribute) (value : Bool)
  | isNotTruth (column : Attribute) (value : Bool)
  | compare (column : Attribute) (comparison : Comparison) (operand : Value)
  /-- The column, in small letters on demand, matches a pattern; only an escaping one has an escape
  mark. -/
  | like (column : Attribute) (lowered escaping : Bool) (pattern : Value)
  | between (column : Attribute) (low high : Value)
  deriving Inhabited

structure Predicate where
  alternatives : List Test
  deriving Inhabited

namespace Test

def operands : Test → List Value
  | .compare _ _ operand => [operand]
  | .like _ _ _ pattern => [pattern]
  | .between _ low high => [low, high]
  | _ => []

def equals (column : Attribute) : Value → Test
  | .null => .isNull column
  | .boolean value => .isTruth column value
  | operand => .compare column .equal operand

def differs (column : Attribute) : Value → Test
  | .null => .isNotNull column
  | .boolean value => .isNotTruth column value
  | operand => .compare column .notEqual operand

def isConstant : Value → Bool
  | .null => true
  | .boolean _ => true
  | _ => false

def atLeast (column : Attribute) (operand : Value) : Except Failure Test :=
  if isConstant operand then .error .constantOperand else .ok (.compare column .atLeast operand)

def matching (column : Attribute) (lowered escaping : Bool) (pattern : Value) :
    Except Failure Test :=
  if isConstant pattern then .error .constantOperand
  else .ok (.like column lowered escaping pattern)

end Test

namespace Predicate

def ofTest (test : Test) : Predicate := ⟨[test]⟩

def isVoid (predicate : Predicate) : Bool := predicate.alternatives.isEmpty

end Predicate
end RecordStore
