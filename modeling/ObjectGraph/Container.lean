import ObjectGraph.Shape
import ObjectGraph.Container.Insertion
import ObjectGraph.Container.Sorted

/-!
# Containers

The four ways to hold many values, and the shapes that they serve.  `Container.values` is the view
in which everything else is said: the values in container order.
-/

namespace ObjectGraph

/-- A container of values. -/
inductive Container where
  | array (items : List Value)
  | list (items : List Value)
  | sortedSet (members : SortedSet)
  | set (members : InsertionSet)

/-- Whether two lists hold equal values in the same order. -/
def Value.equalLists : List Value → List Value → Bool
  | [], [] => true
  | a :: as, b :: bs => a.equal b && equalLists as bs
  | _, _ => false

namespace Container

def values : Container → List Value
  | .array items | .list items => items
  | .sortedSet members => members.items
  | .set members => members.items

def length (c : Container) : Nat := c.values.length

def isEmpty (c : Container) : Bool := c.values.isEmpty

/-- Whether the container is of the kind that serves the shape. -/
def hasShape : Container → Shape → Bool
  | .array _, .array => true
  | .list _, .list | .list _, .vector => true
  | .sortedSet _, .sortedSet => true
  | .set _, .set | .set _, .iterable => true
  | _, _ => false

def contains : Container → Value → Bool
  | .array items, v | .list items, v => items.any fun item => item.equal v
  | .sortedSet members, v => members.contains v
  | .set members, v => members.contains v

/-- Containers are equal if they are of the same kind and hold equal values, in the same order
except for sets in insertion order. -/
def equal : Container → Container → Bool
  | .array as, .array bs | .list as, .list bs => Value.equalLists as bs
  | .sortedSet s, .sortedSet t => Value.equalLists s.items t.items
  | .set s, .set t => s.equal t
  | _, _ => false

/-- The container that serves a shape, built from the values of a list in their order.  Maps are never
built. -/
def ofValues? : Shape → List Value → Option Container
  | .array, vs => some (.array vs)
  | .list, vs | .vector, vs => some (.list vs)
  | .sortedSet, vs => some (.sortedSet (.ofList vs))
  | .set, vs | .iterable, vs => some (.set (.ofList vs))
  | .map, _ => none

end Container

end ObjectGraph
