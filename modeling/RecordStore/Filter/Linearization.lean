/-!
Method resolution orders. The order of a class begins with the class, keeps the order of each of
its bases and the order in which the bases are listed; where no such order exists, the classes
that block each other are reported.
-/

namespace RecordStore.Linearization

def isFree (lists : List (List Nat)) (candidate : Nat) : Bool :=
  lists.all fun list => !(list.drop 1).contains candidate

def nextHead? (lists : List (List Nat)) : Option Nat :=
  (lists.filterMap List.head?).find? (isFree lists)

def dropHead (chosen : Nat) (lists : List (List Nat)) : List (List Nat) :=
  lists.map fun list => if list.head? = some chosen then list.drop 1 else list

def heads (lists : List (List Nat)) : List Nat :=
  (lists.filterMap List.head?).foldl (fun seen head =>
    if seen.contains head then seen else seen ++ [head]) []

/-- Merges lists into one that keeps the order of each. The bound on the steps is the length of
all lists. -/
def merge (lists : List (List Nat)) : Nat → Except (List Nat) (List Nat)
  | 0 => .ok []
  | steps + 1 =>
    if lists.all List.isEmpty then .ok []
    else match nextHead? lists with
      | none => .error (heads lists)
      | some chosen => (merge (dropHead chosen lists) steps).map (chosen :: ·)

def ofBases (self : Nat) (bases : List Nat) (orders : List (List Nat)) :
    Except (List Nat) (List Nat) :=
  let lists := orders ++ [bases]
  (merge lists (lists.flatten.length + 1)).map (self :: ·)

end RecordStore.Linearization
