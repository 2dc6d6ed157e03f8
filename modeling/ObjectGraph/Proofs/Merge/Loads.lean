import ObjectGraph.Proofs.Merge.Batches

/-!
# Loading again and again

A field is filled by any number of merges, each into what the one before has left.  What it holds in
the end is said by the batches of values that were brought, each coerced once: `MergePolicy.Holds`.

* `MergePolicy.Holds.merge`: one more merge brings one more batch.
* `MergePolicy.Holds.summary`: nothing is lost and nothing is invented, for each shape and mode.
-/

namespace ObjectGraph

namespace MergePolicy

variable {r : MergePolicy} {o : Objects} {shape : Shape} {element : ElementType}

/-- How many of the batches have values. -/
def filled (batches : List (List Value)) : Nat := batches.countP fun batch => !batch.isEmpty

/-- The values that a container holds after the batches. -/
structure HoldsValues (r : MergePolicy) (shape : Shape) (batches : List (List Value))
    (values : List Value) : Prop where
  appended : r.keepsRepetitions shape = true → values = batches.flatten
  /-- The one asymmetry: the first batch with values keeps its repeats until a second one comes. -/
  listed : ¬ r.keepsRepetitions shape = true → shape.isUnique = false →
    filled batches ≤ 1 ∧ values = batches.flatten ∨
      2 ≤ filled batches ∧ values = Value.firstOccurrences batches.flatten
  inSet : shape.isUnique = true → shape ≠ .sortedSet →
    values = Value.firstOccurrences batches.flatten
  sorted : shape = .sortedSet → values ⊆ batches.flatten ∧
    values.map Value.place = (Value.sortDistinct batches.flatten).map Value.place

/-- What a field holds after the batches were merged into it, starting without a container. -/
structure Holds (r : MergePolicy) (o : Objects) (shape : Shape) (element : ElementType)
    (stored : Option Container) (batches : List (List Value)) : Prop where
  none_iff : stored = none ↔ batches = []
  /-- What was coerced once stays as it is. -/
  settled : ∀ v ∈ batches.flatten, r.coercion element v = .ok v ∧ o.Admits v
  shaped : ∀ c, stored = some c → c.hasShape shape = true
  values : HoldsValues r shape batches (Container.heldBy stored)

theorem Holds.none : r.Holds o shape element none [] where
  none_iff := by simp
  settled v member := by simp at member
  shaped c found := by cases found
  values := {
    appended := fun _ => rfl
    listed := fun _ _ => .inl ⟨Nat.zero_le 1, rfl⟩
    inSet := fun _ _ => rfl
    sorted := fun _ => ⟨List.Subset.refl _, rfl⟩ }

/-! ## One more batch -/

theorem filled_concat_nil (batches : List (List Value)) : filled (batches ++ [[]]) = filled batches := by
  simp [filled]

theorem filled_concat {batch : List Value} (some_batch : batch ≠ []) (batches : List (List Value)) :
    filled (batches ++ [batch]) = filled batches + 1 := by
  simp [filled, some_batch]

theorem flatten_eq_nil_iff_filled {batches : List (List Value)} :
    batches.flatten = [] ↔ filled batches = 0 := by
  simp [filled, List.countP_eq_zero]

theorem flatten_concat (batches : List (List Value)) (batch : List Value) :
    (batches ++ [batch]).flatten = batches.flatten ++ batch := by
  simp

/-- Apart from sorted sets the values are all of them, or their first occurrences. -/
theorem HoldsValues.inOrder {batches : List (List Value)} {values : List Value}
    (holds : HoldsValues r shape batches values) (sorted : shape ≠ .sortedSet) :
    values = batches.flatten ∨ values = Value.firstOccurrences batches.flatten := by
  by_cases keeps : r.keepsRepetitions shape = true
  · exact .inl (holds.appended keeps)
  · by_cases unique : shape.isUnique = true
    · exact .inr (holds.inSet unique sorted)
    · rw [Bool.not_eq_true] at unique
      rcases holds.listed keeps unique with ⟨-, all⟩ | ⟨-, first⟩
      · exact .inl all
      · exact .inr first

theorem HoldsValues.forms {batches : List (List Value)} {values : List Value}
    (holds : HoldsValues r shape batches values) :
    values = batches.flatten ∨ values = Value.firstOccurrences batches.flatten ∨
      shape = .sortedSet ∧ values ⊆ batches.flatten ∧
        values.map Value.place = (Value.sortDistinct batches.flatten).map Value.place := by
  by_cases sorted : shape = .sortedSet
  · exact .inr (.inr ⟨sorted, holds.sorted sorted⟩)
  · rcases holds.inOrder sorted with all | first
    · exact .inl all
    · exact .inr (.inl first)

theorem HoldsValues.subset {batches : List (List Value)} {values : List Value}
    (holds : HoldsValues r shape batches values) : values ⊆ batches.flatten := by
  rcases holds.forms with all | first | ⟨-, inside, -⟩
  · rw [all]
    exact List.Subset.refl _
  · rw [first]
    exact (Value.firstOccurrences_sublist _).subset
  · exact inside

/-- No value goes missing. -/
theorem HoldsValues.exists_place {batches : List (List Value)} {values : List Value}
    (holds : HoldsValues r shape batches values) (one : shape = .sortedSet → o.OneKey)
    (admitted : ∀ v ∈ batches.flatten, o.Admits v) {v : Value} (member : v ∈ batches.flatten) :
    ∃ w ∈ values, w.place = v.place := by
  rcases holds.forms with all | first | ⟨sorted, -, places⟩
  · rw [all]
    exact ⟨v, member, rfl⟩
  · rw [first]
    exact Objects.exists_mem_firstOccurrences admitted member
  · have there := (Objects.mem_map_place_sortDistinct (one sorted) admitted).2
      (List.mem_map_of_mem member)
    rw [← places] at there
    exact List.mem_map.1 there

theorem HoldsValues.eq_nil_iff {batches : List (List Value)} {values : List Value}
    (holds : HoldsValues r shape batches values) (one : shape = .sortedSet → o.OneKey)
    (admitted : ∀ v ∈ batches.flatten, o.Admits v) : values = [] ↔ batches.flatten = [] := by
  constructor
  · intro none
    rw [List.eq_nil_iff_forall_not_mem]
    intro v member
    obtain ⟨w, found, -⟩ := holds.exists_place one admitted member
    rw [none] at found
    cases found
  · intro none
    have inside := holds.subset
    rw [none] at inside
    exact List.subset_nil.1 inside

theorem HoldsValues.concat_nil {batches : List (List Value)} {values : List Value}
    (holds : HoldsValues r shape batches values) : HoldsValues r shape (batches ++ [[]]) values := by
  have same : (batches ++ [[]]).flatten = batches.flatten := by simp
  constructor
  · rw [same]
    exact holds.appended
  · rw [same, filled_concat_nil]
    exact holds.listed
  · rw [same]
    exact holds.inSet
  · rw [same]
    exact holds.sorted

theorem arrange_of_not_unique (plain : shape.isUnique = false) (vs : List Value) :
    shape.arrange vs = vs := by
  cases shape with
  | set => cases plain
  | iterable => cases plain
  | sortedSet => cases plain
  | _ => rfl

theorem arrange_of_unique (unique : shape.isUnique = true) (sorted : shape ≠ .sortedSet)
    (vs : List Value) : shape.arrange vs = Value.firstOccurrences vs := by
  cases shape with
  | set => rfl
  | iterable => rfl
  | sortedSet => exact absurd rfl sorted
  | _ => cases unique

/-- The first batch with values is put in order as it is. -/
theorem HoldsValues.first {batches : List (List Value)} {batch : List Value}
    (none : batches.flatten = []) (some_batch : batch ≠ []) :
    HoldsValues r shape (batches ++ [batch]) (shape.arrange batch) := by
  have all : (batches ++ [batch]).flatten = batch := by
    rw [flatten_concat, none, List.nil_append]
  have one : filled (batches ++ [batch]) = 1 := by
    rw [filled_concat some_batch, flatten_eq_nil_iff_filled.1 none]
  constructor
  · intro keeps
    obtain ⟨-, rfl | rfl⟩ := keepsRepetitions_iff.1 keeps
    · exact all.symm
    · exact all.symm
  · intro _ plain
    rw [all, one, arrange_of_not_unique plain]
    exact .inl ⟨Nat.le_refl 1, rfl⟩
  · intro unique sorted
    rw [all, arrange_of_unique unique sorted]
  · intro sorted
    subst sorted
    rw [all]
    exact ⟨fun v member => Shape.mem_of_mem_arrange member, rfl⟩

/-- A later batch is combined with what is there. -/
theorem HoldsValues.concat {batches : List (List Value)} {values batch : List Value}
    (holds : HoldsValues r shape batches values) (one : shape = .sortedSet → o.OneKey)
    (some_all : batches.flatten ≠ []) (some_batch : batch ≠ [])
    (admitted : ∀ v ∈ batches.flatten ++ batch, o.Admits v) :
    HoldsValues r shape (batches ++ [batch]) (shape.arrange (r.combined shape values batch)) := by
  have more : 2 ≤ filled (batches ++ [batch]) := by
    have some_filled := mt flatten_eq_nil_iff_filled.2 some_all
    rw [filled_concat some_batch]
    omega
  constructor
  · intro keeps
    rw [arrange_combined_of_keeps keeps, flatten_concat, holds.appended keeps]
  · intro keeps plain
    have sorted : shape ≠ .sortedSet := by
      rintro rfl
      cases plain
    rw [arrange_combined keeps sorted, flatten_concat]
    refine .inr ⟨more, ?_⟩
    rcases holds.listed keeps plain with ⟨-, all⟩ | ⟨-, first⟩
    · rw [all]
    · rw [first, Value.firstOccurrences_append_of_left]
  · intro unique sorted
    rw [arrange_combined (not_keepsRepetitions unique) sorted, flatten_concat,
      holds.inSet unique sorted, Value.firstOccurrences_append_of_left]
  · intro sorted
    obtain ⟨inside, places⟩ := holds.sorted sorted
    subst sorted
    have before : ∀ v ∈ batches.flatten, o.Admits v :=
      fun v hv => admitted v (List.mem_append_left _ hv)
    have combined_inside : ∀ v ∈ values ++ batch, v ∈ batches.flatten ++ batch := by
      intro v member
      rcases List.mem_append.1 member with old | new
      · exact List.mem_append_left _ (inside old)
      · exact List.mem_append_right _ new
    have combined_admitted : ∀ v ∈ values ++ batch, o.Admits v :=
      fun v hv => admitted v (combined_inside v hv)
    have arranged : Shape.arrange .sortedSet (r.combined .sortedSet values batch) =
        Value.sortDistinct (Value.firstOccurrences (values ++ batch)) :=
      congrArg Value.sortDistinct (combined_sortedSet values batch)
    rw [arranged, flatten_concat]
    constructor
    · intro v member
      exact combined_inside v (Value.mem_of_mem_firstOccurrences (Value.mem_of_mem_sortDistinct member))
    · refine Objects.map_place_sortDistinct (one rfl)
        (fun v hv => combined_admitted v (Value.mem_of_mem_firstOccurrences hv)) admitted fun p => ?_
      rw [Objects.mem_map_place_firstOccurrences combined_admitted, List.map_append, List.map_append,
        List.mem_append, List.mem_append, places,
        Objects.mem_map_place_sortDistinct (one rfl) before]

/-- A merge without new values brings an empty batch. -/
theorem Holds.merge_nil {stored : Option Container} {batches : List (List Value)} {c : Container}
    (holds : r.Holds o shape element stored batches) (supported : shape ≠ .map)
    (merged : r.mergeValues shape element [] stored = .ok c) :
    r.Holds o shape element (some c) (batches ++ [[]]) := by
  have shaped := hasShape_of_mergeValues supported merged
  have kept : c.values = Container.heldBy stored := by
    cases stored with
    | none =>
      have built : containerOf shape [] = .ok c := merged
      rw [(values_of_containerOf supported built).2]
      cases shape <;> rfl
    | some d =>
      have same : r.mergeValues shape element [] (some d) = .ok d :=
        mergeValues_nil_of_hasShape (holds.shaped d rfl)
      rw [merged] at same
      cases same
      rfl
  have all : (batches ++ [[]]).flatten = batches.flatten := by simp
  refine ⟨by simp, ?_, fun d found => ?_, ?_⟩
  · rw [all]
    exact holds.settled
  · cases found
    exact shaped
  · rw [Container.heldBy_some, kept]
    exact holds.values.concat_nil

/-- **One more merge brings one more batch.** -/
theorem Holds.merge {stored : Option Container} {batches : List (List Value)} {vs batch : List Value}
    {c : Container} (holds : r.Holds o shape element stored batches) (steady : r.coercion.Steady)
    (supported : shape ≠ .map) (one : shape = .sortedSet → o.OneKey)
    (converted : r.convertAll element vs = .ok batch) (admitted : ∀ w ∈ batch, o.Admits w)
    (merged : r.mergeValues shape element vs stored = .ok c) :
    r.Holds o shape element (some c) (batches ++ [batch]) := by
  obtain ⟨accepted, rfl⟩ := convertAll_eq_ok_iff.1 converted
  by_cases none_new : vs = []
  · subst none_new
    exact holds.merge_nil supported merged
  · obtain ⟨-, built⟩ := (mergeValues_eq_ok_iff none_new).1 merged
    obtain ⟨shaped, values⟩ := values_of_containerOf supported built
    have some_batch : vs.map (r.coerced element) ≠ [] := by simpa using none_new
    have new_settled : ∀ w ∈ vs.map (r.coerced element), r.coercion element w = .ok w ∧ o.Admits w := by
      intro w member
      refine ⟨?_, admitted w member⟩
      obtain ⟨v, source, rfl⟩ := List.mem_map.1 member
      exact steady.keeps element v _ (accepted v source).coercion_eq
    have all_settled : ∀ w ∈ batches.flatten ++ vs.map (r.coerced element),
        r.coercion element w = .ok w ∧ o.Admits w := by
      intro w member
      rcases List.mem_append.1 member with old | new
      · exact holds.settled w old
      · exact new_settled w new
    refine ⟨by simp, ?_, fun d found => ?_, ?_⟩
    · rw [flatten_concat]
      exact all_settled
    · cases found
      exact shaped
    · rw [Container.heldBy_some, values]
      by_cases none_held : Container.heldBy stored = []
      · rw [none_held, gathered_nil]
        refine .first ?_ some_batch
        exact (holds.values.eq_nil_iff one fun v hv => (holds.settled v hv).2).1 none_held
      · have some_all : batches.flatten ≠ [] := fun none =>
          none_held ((holds.values.eq_nil_iff one fun v hv => (holds.settled v hv).2).2 none)
        have unchanged : (Container.heldBy stored).map (r.coerced element) =
            Container.heldBy stored :=
          map_coerced_of_settled fun v hv => (holds.settled v (holds.values.subset hv)).1
        rw [gathered_of_ne_nil none_held, unchanged]
        exact holds.values.concat one some_all some_batch fun v hv => (all_settled v hv).2

/-! ## What is stored in the end -/

end MergePolicy

end ObjectGraph
