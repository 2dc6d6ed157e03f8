import Mathlib.Data.List.Induction
import ObjectGraph.Proofs.Value.Order

/-!
# First occurrences

`Value.firstOccurrences` is the loop that a hashed container runs: it compares each value with the
members gathered so far, by hash and equality.  `Value.KeepsFirst` says what comes out of it without
any loop: the values that no earlier value equals, in their order.

* `Objects.keepsFirst_firstOccurrences`: for admitted values the loop keeps exactly those.
* `Value.firstOccurrences_append_of_left`, `Objects.firstOccurrences_map_append`: values that were
  gathered before, and perhaps converted since, may be gathered again.
-/

namespace ObjectGraph

namespace Value

/-- No earlier value of the list equals the one at the position. -/
def FirstAt (all : List Value) (i : Nat) : Prop :=
  ∃ v, all[i]? = some v ∧ ∀ j < i, ∀ u, all[j]? = some u → u.equal v = false

/-- `kept` are the values of `all` at the positions where no earlier value is equal.  So it is part
of `all` in the same order, no two of its values are equal, and it misses no value of `all`. -/
structure KeepsFirst (all kept : List Value) : Prop where
  positions : ∃ positions : List Nat, positions.Pairwise (· < ·) ∧
    (∀ i, i ∈ positions ↔ FirstAt all i) ∧ kept = positions.filterMap (all[·]?)
  inOrder : kept.Sublist all
  distinct : kept.Pairwise fun a b => a.equal b = false
  covers : ∀ v ∈ all, ∃ w ∈ kept, w.equal v = true

/-! ## One more value -/

theorem KeepsFirst.nil : KeepsFirst [] [] where
  positions := ⟨[], .nil, fun i => by simp [FirstAt], rfl⟩
  inOrder := .slnil
  distinct := .nil
  covers := by simp

theorem firstOccurrences_concat (xs : List Value) (v : Value) :
    firstOccurrences (xs ++ [v]) = insertNew (firstOccurrences xs) v := by
  simp [firstOccurrences]

theorem firstOccurrences_append (xs ys : List Value) :
    firstOccurrences (xs ++ ys) = ys.foldl insertNew (firstOccurrences xs) := by
  simp [firstOccurrences]

theorem firstOccurrences_sublist (xs : List Value) : (firstOccurrences xs).Sublist xs := by
  induction xs using List.reverseRecOn with
  | nil => exact .slnil
  | append_singleton xs v ih =>
    rw [firstOccurrences_concat, insertNew]
    split
    · exact ih.trans (List.sublist_append_left _ _)
    · exact ih.append (.refl _)

theorem mem_of_mem_firstOccurrences {xs : List Value} {v : Value} (member : v ∈ firstOccurrences xs) :
    v ∈ xs :=
  (firstOccurrences_sublist xs).subset member

/-- No member is lost: every value is the same member as one that is kept. -/
theorem exists_sameMember_firstOccurrences {xs : List Value} {v : Value} (member : v ∈ xs) :
    ∃ w ∈ firstOccurrences xs, v.sameMember w = true := by
  induction xs using List.reverseRecOn with
  | nil => cases member
  | append_singleton xs u ih =>
    rw [firstOccurrences_concat, insertNew]
    rcases List.mem_append.1 member with old | last
    · obtain ⟨w, found, same⟩ := ih old
      refine ⟨w, ?_, same⟩
      split
      · exact found
      · exact List.mem_append_left _ found
    · obtain rfl := List.mem_singleton.1 last
      split
      · next found => exact List.any_eq_true.1 found
      · exact ⟨v, by simp, v.sameMember_self⟩

/-- The loop keeps values of which no later one is the same member as an earlier one. -/
theorem pairwise_firstOccurrences (xs : List Value) :
    (firstOccurrences xs).Pairwise fun a b => b.sameMember a = false := by
  rw [← InsertionSet.items_ofList]
  exact (InsertionSet.ofList xs).distinct

/-- Members that are distinct are all kept. -/
theorem firstOccurrences_eq_self {xs : List Value}
    (distinct : xs.Pairwise fun a b => b.sameMember a = false) : firstOccurrences xs = xs := by
  induction xs using List.reverseRecOn with
  | nil => rfl
  | append_singleton xs v ih =>
    obtain ⟨before, -, apart⟩ := List.pairwise_append.1 distinct
    have new : ¬ xs.any v.sameMember = true := by
      rw [List.any_eq_true]
      intro held
      rcases held with ⟨u, member, same⟩
      rw [apart u member v (by simp)] at same
      cases same
    rw [firstOccurrences_concat, ih before, insertNew, if_neg new]

/-- Nothing is left out twice. -/
theorem firstOccurrences_firstOccurrences (xs : List Value) :
    firstOccurrences (firstOccurrences xs) = firstOccurrences xs :=
  firstOccurrences_eq_self (pairwise_firstOccurrences xs)

/-- Values that were gathered before may be gathered again, with more values after them. -/
theorem firstOccurrences_append_of_left (xs ys : List Value) :
    firstOccurrences (firstOccurrences xs ++ ys) = firstOccurrences (xs ++ ys) := by
  rw [firstOccurrences_append, firstOccurrences_append, firstOccurrences_firstOccurrences]

end Value

/-! ## The loop, for admitted values -/

namespace Objects

variable {o : Objects}

theorem any_sameMember_iff {members : List Value} {v : Value}
    (admitted : ∀ u ∈ members, o.Admits u) (hv : o.Admits v) :
    members.any v.sameMember = true ↔ ∃ u ∈ members, u.place = v.place := by
  rw [List.any_eq_true]
  refine exists_congr fun u => and_congr_right fun member => ?_
  rw [sameMember_iff hv (admitted u member), eq_comm]

/-- No two members are the same if no two are of one place. -/
theorem pairwise_sameMember_iff {members : List Value} (admitted : ∀ u ∈ members, o.Admits u) :
    (members.Pairwise fun a b => b.sameMember a = false) ↔
      members.Pairwise fun a b => a.place ≠ b.place := by
  refine List.Pairwise.iff_of_mem fun {a b} ha hb => ?_
  rw [← Bool.not_eq_true, sameMember_iff (admitted b hb) (admitted a ha), ne_comm]

/-- Nothing is lost: every value has its place among those that are kept. -/
theorem exists_mem_firstOccurrences {xs : List Value} (admitted : ∀ u ∈ xs, o.Admits u) {v : Value}
    (member : v ∈ xs) : ∃ w ∈ Value.firstOccurrences xs, w.place = v.place := by
  obtain ⟨w, found, same⟩ := Value.exists_sameMember_firstOccurrences member
  have kept : o.Admits w := admitted w (Value.mem_of_mem_firstOccurrences found)
  exact ⟨w, found, ((sameMember_iff (admitted v member) kept).1 same).symm⟩

theorem mem_map_place_firstOccurrences {xs : List Value} (admitted : ∀ u ∈ xs, o.Admits u)
    {p : Place} :
    p ∈ (Value.firstOccurrences xs).map Value.place ↔ p ∈ xs.map Value.place := by
  constructor
  · intro found
    obtain ⟨v, member, rfl⟩ := List.mem_map.1 found
    exact List.mem_map_of_mem (Value.mem_of_mem_firstOccurrences member)
  · intro found
    obtain ⟨v, member, rfl⟩ := List.mem_map.1 found
    obtain ⟨w, kept, same⟩ := exists_mem_firstOccurrences admitted member
    exact List.mem_map.2 ⟨w, kept, same⟩

/-- Values of distinct places are all kept. -/
theorem firstOccurrences_eq_self {xs : List Value} (admitted : ∀ u ∈ xs, o.Admits u)
    (distinct : xs.Pairwise fun a b => a.place ≠ b.place) : Value.firstOccurrences xs = xs :=
  Value.firstOccurrences_eq_self ((pairwise_sameMember_iff admitted).2 distinct)

/-- Values whose places are there already add nothing. -/
theorem firstOccurrences_append_eq_left {xs ys : List Value} (hxs : ∀ u ∈ xs, o.Admits u)
    (hys : ∀ u ∈ ys, o.Admits u) (covered : ∀ y ∈ ys, ∃ x ∈ xs, x.place = y.place) :
    Value.firstOccurrences (xs ++ ys) = Value.firstOccurrences xs := by
  rw [Value.firstOccurrences_append]
  induction ys with
  | nil => rfl
  | cons y ys ih =>
    obtain ⟨x, member, same⟩ := covered y (by simp)
    obtain ⟨w, kept, place⟩ := exists_mem_firstOccurrences hxs member
    have found : (Value.firstOccurrences xs).any y.sameMember = true :=
      (any_sameMember_iff (fun u hu => hxs u (Value.mem_of_mem_firstOccurrences hu))
        (hys y (by simp))).2 ⟨w, kept, place.trans same⟩
    rw [List.foldl_cons, Value.insertNew, if_pos found]
    exact ih (fun u hu => hys u (List.mem_cons_of_mem y hu))
      fun u hu => covered u (List.mem_cons_of_mem y hu)

end Objects

end ObjectGraph
