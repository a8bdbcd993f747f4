import RecordStore.Order.Term
import RecordStore.Sql.Operator

/-!
Statements that read records: a selection of rows and the count of the same rows. A limit or an
offset that is not positive is not set.
-/

namespace RecordStore

structure Selection where
  model : Model
  predicates : List Predicate
  order : List (Attribute × Option Direction)
  limit : Option Int
  offset : Option Int

structure Counting where
  model : Model
  predicates : List Predicate

def positiveBound (bound : Int) : Option Int := if 0 < bound then some bound else none

def buildSelection (registry : Registry) (model : Model) (clauses : List Clause)
    (terms : List SortTerm) (limit offset : Int) : Except Failure Selection := do
  let predicates ← registry.compileClauses model clauses
  let order ← SortTerm.resolve model terms
  pure ⟨model, predicates, order, positiveBound limit, positiveBound offset⟩

def buildCounting (registry : Registry) (model : Model) (clauses : List Clause) :
    Except Failure Counting := do
  let predicates ← registry.compileClauses model clauses
  pure ⟨model, predicates⟩

end RecordStore
