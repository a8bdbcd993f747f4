import RecordStore.Store.Binding
import RecordStore.Store.Like
import RecordStore.Store.Table

/-!
The rows that a statement reads. A test on null never holds. Rows are sorted by the terms of the
order, rows that no term tells apart staying in the order of their identities; then the window is
cut out. Statements are taken to stay within the limits of SQLite, which refuses more than 32766
bound values and expressions more than 1000 levels deep.
-/

namespace RecordStore

def Text.lowerAsciiText (text : String) : String :=
  String.ofList (text.toList.map Text.lowerAscii)

namespace Test

def operandCell (column : Attribute) (operand : Value) : Cell :=
  (Cell.ofValue (column.bindType.against operand) operand).compared column.type.affinity

def truthCell (column : Attribute) (value : Bool) : Cell :=
  (Cell.integer (if value then 1 else 0)).compared column.type.affinity

def related (relation : Cell → Cell → Bool) (left right : Cell) : Bool :=
  left != .null && right != .null && relation left right

def relation : Comparison → Cell → Cell → Bool
  | .equal, left, right => left.same right
  | .notEqual, left, right => !left.same right
  | .atLeast, left, right => !left.less right

def holds (row : Row) : Test → Bool
  | .isNull column => row.cell column == .null
  | .isNotNull column => row.cell column != .null
  | .isTruth column value => related (relation .equal) (row.cell column) (truthCell column value)
  | .isNotTruth column value =>
    related (relation .notEqual) (row.cell column) (truthCell column value)
  | .compare column comparison operand =>
    related (relation comparison) (row.cell column) (operandCell column operand)
  | .like column lowered escaping pattern =>
    let patternCell := if lowered then Cell.ofValue (.ofValue pattern) pattern
      else Cell.ofValue (column.bindType.against pattern) pattern
    match (row.cell column).asText?, patternCell.asText? with
    | some text, some pattern =>
      Like.holds (if escaping then some Pattern.escapeMark else none) pattern
        (if lowered then Text.lowerAsciiText text else text)
    | _, _ => false
  | .between column low high =>
    related (relation .atLeast) (row.cell column) (operandCell column low) &&
      related (fun left right => !right.less left) (row.cell column) (operandCell column high)

end Test

namespace Predicate

def holds (row : Row) (predicate : Predicate) : Bool :=
  predicate.isVoid || predicate.alternatives.any (Test.holds row)

def allHold (predicates : List Predicate) (row : Row) : Bool :=
  predicates.all (Predicate.holds row)

end Predicate

def mayPrecede : List (Attribute × Option Direction) → Row → Row → Bool
  | [], _, _ => true
  | (attr, direction) :: rest, left, right =>
    let (first, second) := match direction with
      | some .descending => (right.cell attr, left.cell attr)
      | _ => (left.cell attr, right.cell attr)
    first.less second || (!second.less first && mayPrecede rest left right)

def cutWindow {α : Type} (limit offset : Option Int) (items : List α) : List α :=
  let rest := items.drop (offset.getD 0).toNat
  match limit with
  | some limit => rest.take limit.toNat
  | none => rest

namespace Selection

def select (selection : Selection) (rows : List Row) : List Row :=
  let kept := rows.filter (Predicate.allHold selection.predicates)
  cutWindow selection.limit selection.offset (kept.mergeSort (mayPrecede selection.order))

def read (selection : Selection) (table : Table) : Except StoreFailure (List Row) := do
  Token.checkBindings (selection.tokens (.adapter .sqlite))
  pure (selection.select table.rows)

end Selection

namespace Counting

def count (counting : Counting) (rows : List Row) : Nat :=
  (rows.filter (Predicate.allHold counting.predicates)).length

def read (counting : Counting) (table : Table) : Except StoreFailure Nat := do
  Token.checkBindings (counting.tokens (.adapter .sqlite))
  pure (counting.count table.rows)

end Counting
end RecordStore
