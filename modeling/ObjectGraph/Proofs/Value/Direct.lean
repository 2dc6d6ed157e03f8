import ObjectGraph.Container

/-!
# Values without stand-ins

`Value.direct` puts the object itself in the place of a handle that reaches it.  Nothing in values is
compared, hashed or shown that this changes, and so it may be done before values are gathered and
sorted as well as after that.

* `Value.compare_direct`, `Value.hashContent_direct`: what does not change.
* `Value.firstOccurrences_direct`, `Value.sortDistinct_direct`: gathering and sorting.
* `Container.ofValues?_direct`: building a container.
-/

namespace ObjectGraph

/-- The handle to the object itself. -/
def Handle.direct (h : Handle) : Handle := .object h.target

namespace Value

/-- The value with the object itself in the place of a stand-in. -/
def direct : Value → Value
  | .entity h => .entity h.direct
  | v => v

theorem direct_of_plain {v : Value} (plain : ∀ h, v ≠ .entity h) : v.direct = v := by
  cases v with
  | entity h => exact absurd rfl (plain h)
  | _ => rfl

/-! ## What stays -/

@[simp] theorem compare_direct_left (a b : Value) : a.direct.compare b = a.compare b := by
  cases a with
  | entity g =>
    cases b with
    | _ => rfl
  | _ => rfl

@[simp] theorem compare_direct_right (a b : Value) : a.compare b.direct = a.compare b := by
  cases b with
  | entity h =>
    cases a with
    | _ => rfl
  | _ => rfl

theorem compare_direct (a b : Value) : a.direct.compare b.direct = a.compare b := by simp

@[simp] theorem hashContent_direct (v : Value) : v.direct.hashContent = v.hashContent := by
  cases v with
  | _ => rfl

@[simp] theorem equal_direct (a b : Value) : a.direct.equal b.direct = a.equal b := by
  simp [equal]

@[simp] theorem sameMember_direct (a b : Value) : a.direct.sameMember b.direct = a.sameMember b := by
  simp [sameMember]

/-! ## Gathering and sorting -/

theorem insertNew_direct (members : List Value) (v : Value) :
    insertNew (members.map direct) v.direct = (insertNew members v).map direct := by
  have found : (members.map direct).any v.direct.sameMember = members.any v.sameMember := by
    rw [List.any_map]
    simp only [Function.comp_def, sameMember_direct]
  rw [insertNew, insertNew, found]
  split
  · rfl
  · simp

theorem firstOccurrences_direct (vs : List Value) :
    firstOccurrences (vs.map direct) = (firstOccurrences vs).map direct := by
  rw [firstOccurrences, List.foldl_map]
  exact @List.foldl_hom _ _ _ (List.map direct) insertNew (fun members v => insertNew members v.direct)
    vs [] insertNew_direct

theorem insertDescending_direct (v : Value) (ws : List Value) :
    insertDescending v.direct (ws.map direct) = (insertDescending v ws).map direct := by
  induction ws with
  | nil => rfl
  | cons w ws ih =>
    rw [List.map_cons, insertDescending, insertDescending, compare_direct]
    split
    · rw [ih, List.map_cons]
    · rfl

theorem sort_direct (vs : List Value) : sort (vs.map direct) = (sort vs).map direct := by
  rw [sort, sort, List.map_reverse, List.foldl_map]
  refine congrArg List.reverse ?_
  exact @List.foldl_hom _ _ _ (List.map direct) (fun sorted v => insertDescending v sorted)
    (fun sorted v => insertDescending v.direct sorted) vs []
    fun sorted v => insertDescending_direct v sorted

theorem dropRepeats_direct : ∀ vs : List Value,
    dropRepeats (vs.map direct) = (dropRepeats vs).map direct
  | [] => rfl
  | [_] => rfl
  | v :: w :: vs => by
    have ih : dropRepeats (w.direct :: vs.map direct) = (dropRepeats (w :: vs)).map direct :=
      dropRepeats_direct (w :: vs)
    rw [List.map_cons, List.map_cons, dropRepeats, dropRepeats, equal_direct, ih]
    split
    · rfl
    · rfl

theorem sortDistinct_direct (vs : List Value) :
    sortDistinct (vs.map direct) = (sortDistinct vs).map direct := by
  rw [sortDistinct, sort_direct, dropRepeats_direct, sortDistinct]

/-! ## Handles to one object -/

/-- A hashed container takes all handles to an object for the same member. -/
theorem sameMember_of_target {g h : Handle} (same : g.target = h.target) :
    (entity g).sameMember (.entity h) = true := by
  have hash : (entity g).hashContent = (entity h).hashContent := by
    simp [hashContent, Handle.address, same]
  have compared : (entity g).compare (.entity h) = .eq := by
    simp [compare, Handle.compare, same, Entity.compare, Entity.equal]
  simp [sameMember, equal, hash, compared]

/-- Not two handles to one object. -/
def Apart (a b : Value) : Prop := ∀ g h, a = .entity g → b = .entity h → g.target ≠ h.target

theorem Apart.symm {a b : Value} (apart : a.Apart b) : b.Apart a :=
  fun g h first second same => apart h g second first same.symm

theorem apart_of_sameMember {a b : Value} (different : b.sameMember a = false) : a.Apart b := by
  rintro g h rfl rfl same
  rw [sameMember_of_target same.symm] at different
  cases different

end Value

/-! ## Containers -/

theorem InsertionSet.eq_of_items {s t : InsertionSet} (same : s.items = t.items) : s = t := by
  cases s
  cases t
  cases same
  rfl

/-- The set with the objects themselves in the place of stand-ins. -/
def InsertionSet.direct (s : InsertionSet) : InsertionSet where
  items := s.items.map Value.direct
  distinct := by
    rw [List.pairwise_map]
    exact s.distinct.imp fun apart => (Value.sameMember_direct _ _).trans apart

/-- The set with the objects themselves in the place of stand-ins. -/
def SortedSet.direct (s : SortedSet) : SortedSet where
  items := s.items.map Value.direct
  sorted := by
    obtain ⟨vs, sorted⟩ := s.sorted
    exact ⟨vs.map Value.direct, by rw [sorted, Value.sortDistinct_direct]⟩

namespace Container

/-- The container with the objects themselves in the place of stand-ins. -/
def direct : Container → Container
  | .array items => .array (items.map Value.direct)
  | .list items => .list (items.map Value.direct)
  | .sortedSet members => .sortedSet members.direct
  | .set members => .set members.direct

@[simp] theorem values_direct (c : Container) : c.direct.values = c.values.map Value.direct := by
  cases c with
  | _ => rfl

@[simp] theorem isEmpty_direct (c : Container) : c.direct.isEmpty = c.isEmpty := by
  simp [isEmpty]

@[simp] theorem hasShape_direct (c : Container) (shape : Shape) :
    c.direct.hasShape shape = c.hasShape shape := by
  cases c with
  | _ =>
    cases shape with
    | _ => rfl

/-- Containers may be built from the objects themselves, or from stand-ins that are looked through
later. -/
theorem ofValues?_direct (shape : Shape) (vs : List Value) :
    ofValues? shape (vs.map Value.direct) = (ofValues? shape vs).map direct := by
  have inserted : InsertionSet.ofList (vs.map Value.direct) = (InsertionSet.ofList vs).direct := by
    apply InsertionSet.eq_of_items
    rw [InsertionSet.items_ofList, Value.firstOccurrences_direct, ← InsertionSet.items_ofList]
    rfl
  have sorted : SortedSet.ofList (vs.map Value.direct) = (SortedSet.ofList vs).direct := by
    simp only [SortedSet.direct, SortedSet.ofList, Value.sortDistinct_direct]
  cases shape with
  | sortedSet => simp [ofValues?, direct, sorted]
  | set => simp [ofValues?, direct, inserted]
  | iterable => simp [ofValues?, direct, inserted]
  | _ => rfl

end Container

end ObjectGraph
