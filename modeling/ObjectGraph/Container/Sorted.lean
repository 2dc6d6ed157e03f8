import ObjectGraph.Value

/-!
# Sorted sets

A set that keeps its members in ascending order.  It is built by a stable sort, after which of
neighbours that are equal the last one stays.  Up to twenty values are sorted by insertion, as here;
more may be sorted in another way, with the same result where the comparison is an order.

* `Value.sort`: the stable sort, by insertion from the right.
* `SortedSet.ofList`: the set of the values of a list.
-/

namespace ObjectGraph

namespace Value

/-- Inserts into a list in descending order: before the first value, going down from the largest,
that is not greater. -/
def insertDescending (v : Value) : List Value → List Value
  | [] => [v]
  | w :: ws => if v.compare w == .lt then w :: insertDescending v ws else v :: w :: ws

/-- The values in ascending order; equal ones keep their order. -/
def sort (vs : List Value) : List Value :=
  (vs.foldl (fun sorted v => insertDescending v sorted) []).reverse

def dropRepeats : List Value → List Value
  | [] => []
  | [v] => [v]
  | v :: w :: vs => if v.equal w then dropRepeats (w :: vs) else v :: dropRepeats (w :: vs)

/-- The values in ascending order, of equal neighbours only the last. -/
def sortDistinct (vs : List Value) : List Value := dropRepeats (sort vs)

end Value

/-- The members of a sorted set are what sorting some list gives. -/
structure SortedSet where
  items : List Value
  sorted : ∃ vs, items = Value.sortDistinct vs

namespace SortedSet

def ofList (vs : List Value) : SortedSet := ⟨Value.sortDistinct vs, vs, rfl⟩

/-- Looks for a value among members in ascending order, and stops at the first greater one. -/
def find (v : Value) : List Value → Bool
  | [] => false
  | member :: members =>
    match v.compare member with
    | .gt => find v members
    | .eq => true
    | .lt => false

def contains (s : SortedSet) (v : Value) : Bool := find v s.items

@[simp] theorem items_ofList (vs : List Value) : (ofList vs).items = Value.sortDistinct vs := rfl

end SortedSet

end ObjectGraph
