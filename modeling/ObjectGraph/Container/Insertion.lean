import ObjectGraph.Value

/-!
# Sets in insertion order

A set that keeps its members in the order in which they were first inserted.  Members are found by
hash and equality together; of two that are the same the first stays.

* `Value.firstOccurrences`: the values of a list without those that an earlier one makes redundant.
* `InsertionSet.ofList`: the set of the values of a list.
-/

namespace ObjectGraph

namespace Value

/-- The members with one more at the end, unless it is there already. -/
def insertNew (members : List Value) (v : Value) : List Value :=
  if members.any v.sameMember then members else members ++ [v]

/-- The values of a list, each at its first occurrence only. -/
def firstOccurrences (vs : List Value) : List Value := vs.foldl insertNew []

end Value

/-- Values in insertion order, no later one the same member as an earlier one. -/
structure InsertionSet where
  items : List Value
  distinct : items.Pairwise fun a b => b.sameMember a = false

namespace InsertionSet

def empty : InsertionSet := ⟨[], .nil⟩

/-- Adding a member at the end keeps the members distinct. -/
theorem distinct_insertNew {items : List Value} {v : Value}
    (h : items.Pairwise fun a b => b.sameMember a = false) :
    (Value.insertNew items v).Pairwise fun a b => b.sameMember a = false := by
  unfold Value.insertNew
  split
  · exact h
  · next hv =>
    rw [List.pairwise_append]
    refine ⟨h, List.pairwise_singleton _ _, ?_⟩
    intro a ha b hb
    rw [List.mem_singleton] at hb
    subst hb
    cases hs : b.sameMember a with
    | false => rfl
    | true => exact absurd (List.any_eq_true.2 ⟨a, ha, hs⟩) hv

/-- The set with one more member, unless it is there already. -/
def insert (s : InsertionSet) (v : Value) : InsertionSet :=
  ⟨Value.insertNew s.items v, distinct_insertNew s.distinct⟩

/-- The set with the values of a list inserted in order. -/
def insertAll (s : InsertionSet) (vs : List Value) : InsertionSet := vs.foldl insert s

def ofList (vs : List Value) : InsertionSet := empty.insertAll vs

/-- Whether a value is found in the set.  A single member is compared without its hash. -/
def contains (s : InsertionSet) (v : Value) : Bool :=
  match s.items with
  | [] => false
  | [member] => v.equal member
  | members => members.any v.sameMember

/-- Sets are equal if they have the same number of members and each member of one is found in the
other; the order does not count. -/
def equal (s t : InsertionSet) : Bool :=
  s.items.length == t.items.length && s.items.all t.contains

@[simp] theorem items_empty : empty.items = [] := rfl

@[simp] theorem items_insert (s : InsertionSet) (v : Value) :
    (s.insert v).items = Value.insertNew s.items v := rfl

@[simp] theorem items_insertAll (s : InsertionSet) (vs : List Value) :
    (s.insertAll vs).items = vs.foldl Value.insertNew s.items := by
  induction vs generalizing s with
  | nil => rfl
  | cons v vs ih => exact ih (s.insert v)

@[simp] theorem items_ofList (vs : List Value) : (ofList vs).items = Value.firstOccurrences vs := by
  simp [ofList, Value.firstOccurrences]

end InsertionSet

end ObjectGraph
