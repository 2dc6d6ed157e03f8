import ObjectGraph.Identity.EntityId
import ObjectGraph.Text

/-!
# Container shapes

The declared structure of a field that holds many values.  A field is classified once, by
`Shape.classify`; afterwards nothing is guessed from the values it holds.
-/

namespace ObjectGraph

/-- The structure of a field that holds many values. -/
inductive Shape where
  /-- A fixed-size array. -/
  | array
  /-- In order, repetitions allowed. -/
  | list
  /-- In order, repetitions allowed; held like a list. -/
  | vector
  /-- Each value once, in the order of values. -/
  | sortedSet
  /-- Each value once, in the order of insertion. -/
  | set
  /-- Anything that can be iterated; held like a set. -/
  | iterable
  /-- Keys with values: described, but never built. -/
  | map
  deriving DecidableEq, Repr

namespace Shape

def all : List Shape := [.array, .list, .vector, .sortedSet, .set, .iterable, .map]

def isUnique : Shape → Bool
  | .sortedSet | .set | .iterable => true
  | _ => false

/-- Whether values are visited in the order in which they were inserted. -/
def keepsInsertionOrder : Shape → Bool
  | .sortedSet | .map => false
  | _ => true

def name : Shape → String
  | .array => "array"
  | .list => "list"
  | .vector => "vector"
  | .sortedSet => "sorted_set"
  | .set => "set"
  | .iterable => "iterable"
  | .map => "map"

def describe : Shape → String
  | .array => "Array"
  | .list => "List"
  | .vector => "Vector"
  | .sortedSet => "SortedSet"
  | .set => "Set"
  | .iterable => "Iterable"
  | .map => "Map"

/-- The shape for a keyword: a canonical name or the name of a common collection. -/
def ofKeyword? (word : String) : Option Shape :=
  if word ∈ ["array", "[]"] then some .array
  else if word ∈ ["list", "vec"] then some .list
  else if word ∈ ["vector", "vec_deque"] then some .vector
  else if word ∈ ["sorted_set", "btree_set"] then some .sortedSet
  else if word ∈ ["set", "hash_set", "index_set"] then some .set
  else if word = "iterable" then some .iterable
  else if word ∈ ["map", "hash_map", "btree_map", "index_map"] then some .map
  else none

/-- The shape for a declared kind, in ASCII letters of either case and with blanks around it.  The
error shows the kind as it was declared. -/
def classify (kind : String) : Except DomainError Shape :=
  match ofKeyword? ((Text.trim kind).map Char.toLower) with
  | some shape => .ok shape
  | none => .error (.unsupportedKind kind)

end Shape

end ObjectGraph
