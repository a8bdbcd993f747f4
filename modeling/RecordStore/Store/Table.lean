import RecordStore.Assoc
import RecordStore.Store.Cell

/-!
Tables: rows by identity, in ascending order. A row is put in only if it meets the constraints of
its model; otherwise the table stays as it is.
-/

namespace RecordStore

structure Row where
  id : Int
  cells : List (String × Cell)
  deriving DecidableEq, Repr, Inhabited

namespace Row

def cell (row : Row) (attr : Attribute) : Cell :=
  if attr.column = Attribute.identity.column then .integer row.id
  else (row.cells.lookup attr.column).getD .null

def value (row : Row) (attr : Attribute) : Value := (row.cell attr).toValue attr.type

def values (model : Model) (row : Row) : List (String × Value) :=
  model.attributes.map fun attr => (attr.name, row.value attr)

def putInto (row : Row) : List Row → List Row
  | [] => [row]
  | first :: rest =>
    if row.id < first.id then row :: first :: rest
    else if row.id = first.id then row :: rest
    else first :: putInto row rest

theorem mem_putInto {row other : Row} {rows : List Row} (found : other ∈ putInto row rows) :
    other = row ∨ other ∈ rows := by
  induction rows with
  | nil => simpa [putInto] using found
  | cons first rest ih =>
    simp only [putInto] at found
    split at found
    · simpa using found
    · split at found
      · rcases List.mem_cons.1 found with here | later
        · exact .inl here
        · exact .inr (List.mem_cons_of_mem _ later)
      · rcases List.mem_cons.1 found with here | later
        · exact .inr (here ▸ List.mem_cons_self)
        · rcases ih later with here | kept
          · exact .inl here
          · exact .inr (List.mem_cons_of_mem _ kept)

theorem pairwise_putInto (row : Row) {rows : List Row}
    (sorted : rows.Pairwise fun left right => left.id < right.id) :
    (putInto row rows).Pairwise fun left right => left.id < right.id := by
  induction rows with
  | nil => simp [putInto]
  | cons first rest ih =>
    obtain ⟨least, sortedRest⟩ := List.pairwise_cons.1 sorted
    simp only [putInto]
    split
    · rename_i below
      refine List.pairwise_cons.2 ⟨fun other found => ?_, sorted⟩
      rcases List.mem_cons.1 found with here | later
      · exact here ▸ below
      · exact Int.lt_trans below (least other later)
    · rename_i notBelow
      split
      · rename_i equal
        exact List.pairwise_cons.2 ⟨fun other found => equal ▸ least other found, sortedRest⟩
      · rename_i different
        refine List.pairwise_cons.2 ⟨fun other found => ?_, ih sortedRest⟩
        rcases mem_putInto found with here | later
        · subst here
          omega
        · exact least other later

end Row

structure Table where
  rows : List Row
  sorted : rows.Pairwise fun left right => left.id < right.id

namespace Table

def empty : Table := ⟨[], .nil⟩

instance : Inhabited Table := ⟨empty⟩

def find? (table : Table) (id : Int) : Option Row := table.rows.find? fun row => row.id == id

def put (table : Table) (row : Row) : Table :=
  ⟨row.putInto table.rows, Row.pairwise_putInto row table.sorted⟩

def removeWhere (table : Table) (holds : Row → Bool) : Table :=
  ⟨table.rows.filter fun row => !holds row, table.sorted.filter _⟩

def freeId (table : Table) : Int :=
  let candidates := (List.range (table.rows.length + 1)).map fun (index : Nat) => (index : Int) + 1
  (candidates.find? fun id => (table.find? id).isNone).getD 1

/-- The identity of a row that is inserted without one: the one after the largest. Where no larger
one is left, the store picks any free one, for which the least stands here. -/
def nextId (table : Table) : Int :=
  match table.rows.getLast? with
  | some row => if Cell.fits (row.id + 1) then row.id + 1 else table.freeId
  | none => 1

def locate? (table : Table) (id : Cell) : Option Row :=
  table.rows.find? fun row => (Cell.integer row.id).same (id.compared .numeric)

def identityOf (id : Cell) : Except StoreFailure Int :=
  match id.drawn .numeric with
  | .integer value => .ok value
  | _ => .error .datatypeMismatch

def clashes (others : List Row) (row : Row) (attr : Attribute) : Bool :=
  row.cell attr != .null && others.any fun other => (other.cell attr).same (row.cell attr)

/-- Refuses a row that breaks a constraint against the other rows: first a missing cell, then the
identity, then the unique columns. -/
def check (model : Model) (others : List Row) (row : Row) : Except StoreFailure Unit :=
  match model.attributes.find? fun attr => !attr.nullable && row.cell attr == .null with
  | some attr => .error (.notNull model.table attr.column)
  | none =>
    if others.any fun other => other.id == row.id then
      .error (.notUnique model.table Attribute.identity.column)
    else
      match model.attributes.find? fun attr => attr.unique && clashes others row attr with
      | some attr => .error (.notUnique model.table attr.column)
      | none => .ok ()

def insert (model : Model) (table : Table) (id : Option Cell) (cells : List (String × Cell)) :
    Except StoreFailure (Row × Table) := do
  let identity ← match id with
    | some id => identityOf id
    | none => .ok table.nextId
  let row : Row := ⟨identity, cells⟩
  check model table.rows row
  pure (row, table.put row)

def update (model : Model) (table : Table) (old : Row) (id : Option Cell)
    (cells : List (String × Cell)) : Except StoreFailure (Row × Table) := do
  let identity ← match id with
    | some id => identityOf id
    | none => .ok old.id
  let row : Row := ⟨identity, assignAll old.cells cells⟩
  let others := table.removeWhere fun other => other.id == old.id
  check model others.rows row
  pure (row, others.put row)

end Table
end RecordStore
