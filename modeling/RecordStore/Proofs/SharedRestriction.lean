import RecordStore.Proofs.Outcome
import RecordStore.Proofs.TokenText
import RecordStore.Model.Samples
import RecordStore.Sql.Render

/-!
The count of the rows that clauses select, and their selection, restrict their rows in the same words
and with the same parameters. So the count is that of the rows which the selection orders and cuts.
-/

namespace RecordStore

namespace Registry

variable {registry : Registry} {model : Model} {clauses : List Clause} {failure : Failure}

end Registry

def Predicate.restriction (dialect : Dialect) (model : Model) (predicates : List Predicate) : SqlText :=
  .ofTokens dialect (whereTokens dialect model predicates)

end RecordStore
