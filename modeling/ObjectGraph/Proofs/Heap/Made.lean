import ObjectGraph.Proofs.Heap.Collect

/-!
# Allocations that were made

A heap knows its live allocations only.  Beside it goes the list of all handles that were ever made,
live or not, and `Heap.Sound` says how the two belong together: numbers are never used twice, live
objects differ in their addresses, and whatever is alive keeps alive what it stands in for.

* `Heap.Sound.live_target`: a live handle reaches a live object.
* `Heap.Sound.allocate`, `Heap.Sound.shrink`: the two ways in which a heap changes keep it sound.
-/

namespace ObjectGraph

namespace Heap

/-- The heap belongs to the handles that were made. -/
structure Sound (heap : Heap) (made : List Handle) : Prop where
  numbered : ∀ h ∈ made, h.allocation < heap.next
  distinct : ∀ g ∈ made, ∀ h ∈ made, g.allocation = h.allocation → g = h
  inner : ∀ h ∈ made, ∀ i, h.inner? = some i → i ∈ made
  known : ∀ a ∈ heap.live, a.handle ∈ made
  closed : heap.Closed
  apart : ∀ d e, .object d ∈ made → .object e ∈ made → heap.isLive d.id = true →
    heap.isLive e.id = true → d.address = e.address → d = e

variable {heap : Heap} {made : List Handle} {h i : Handle}

theorem Sound.empty : Heap.Sound {} [] where
  numbered h member := by cases member
  distinct g member := by cases member
  inner h member := by cases member
  known a member := by cases member
  closed a member := by cases member
  apart d e member := by cases member

/-! ## What a live handle reaches -/

theorem Sound.target_mem (sound : heap.Sound made) (member : h ∈ made) : .object h.target ∈ made := by
  induction h with
  | object e => exact member
  | standIn n inner ih => exact ih (sound.inner _ member _ rfl)
  | wrapper n type slot inner ih => exact ih (sound.inner _ member _ rfl)

theorem Sound.live_inner (sound : heap.Sound made) (member : h ∈ made)
    (live : heap.isLive h.allocation = true) (stands : h.inner? = some i) :
    heap.isLive i.allocation = true := by
  obtain ⟨a, found, same⟩ := isLive_iff.1 live
  have handle : a.handle = h := sound.distinct _ (sound.known a found) _ member same
  rw [← handle] at stands
  exact sound.closed a found i stands

theorem Sound.live_target (sound : heap.Sound made) (member : h ∈ made)
    (live : heap.isLive h.allocation = true) : heap.isLive h.target.id = true := by
  induction h with
  | object e => exact live
  | standIn n inner ih =>
    have below : heap.isLive inner.allocation = true := sound.live_inner member live rfl
    exact ih (sound.inner _ member _ rfl) below
  | wrapper n type slot inner ih =>
    have below : heap.isLive inner.allocation = true := sound.live_inner member live rfl
    exact ih (sound.inner _ member _ rfl) below

/-- Whoever reaches a live handle reaches its object. -/
theorem Sound.reached_target (sound : heap.Sound made) (member : h ∈ made)
    (live : heap.isLive h.allocation = true) (reached : heap.Reached h.allocation) :
    heap.Reached h.target.id := by
  -- One stand-in further in: that is what the allocation of a live stand-in refers to.
  have onward (g i : Handle) (known : g ∈ made) (alive : heap.isLive g.allocation = true)
      (before : heap.Reached g.allocation) (stands : g.inner? = some i) :
      heap.Reached i.allocation := by
    obtain ⟨a, found, same⟩ := isLive_iff.1 alive
    have handle : a.handle = g := sound.distinct _ (sound.known a found) _ known same
    refine .through found (same ▸ before) ?_
    simp [Allocation.references, handle, stands]
  induction h with
  | object e => exact reached
  | standIn n inner ih =>
    exact ih (sound.inner _ member _ rfl) (sound.live_inner member live rfl)
      (onward _ inner member live reached rfl)
  | wrapper n type slot inner ih =>
    exact ih (sound.inner _ member _ rfl) (sound.live_inner member live rfl)
      (onward _ inner member live reached rfl)

/-- Live handles with one address reach one object. -/
theorem Sound.target_eq (sound : heap.Sound made) {g : Handle} (hg : g ∈ made) (hh : h ∈ made)
    (gLive : heap.isLive g.allocation = true) (hLive : heap.isLive h.allocation = true)
    (same : g.address = h.address) : g.target = h.target :=
  sound.apart _ _ (sound.target_mem hg) (sound.target_mem hh) (sound.live_target hg gLive)
    (sound.live_target hh hLive) same

/-- Numbers tell the objects that were made apart. -/
theorem Sound.object_eq (sound : heap.Sound made) {d e : Entity} (hd : .object d ∈ made)
    (he : .object e ∈ made) (same : d.id = e.id) : d = e :=
  Handle.object.inj (sound.distinct _ hd _ he same)

/-! ## How a heap changes -/

theorem isLive_of_subset {heap' : Heap} (subset : ∀ a ∈ heap'.live, ∃ b ∈ heap.live, a.handle = b.handle)
    {n : Nat} (live : heap'.isLive n = true) : heap.isLive n = true := by
  obtain ⟨a, found, same⟩ := isLive_iff.1 live
  obtain ⟨b, old, handle⟩ := subset a found
  refine isLive_iff.2 ⟨b, old, ?_⟩
  rw [← same, Allocation.id, Allocation.id, handle]

/-- A heap in which fewer allocations live. -/
theorem Sound.shrink (sound : heap.Sound made) {heap' : Heap} (next : heap'.next = heap.next)
    (subset : ∀ a ∈ heap'.live, ∃ b ∈ heap.live, a.handle = b.handle) (closed : heap'.Closed) :
    heap'.Sound made where
  numbered h member := by
    rw [next]
    exact sound.numbered h member
  distinct := sound.distinct
  inner := sound.inner
  known a found := by
    obtain ⟨b, old, handle⟩ := subset a found
    rw [handle]
    exact sound.known b old
  closed := closed
  apart d e hd he dLive eLive :=
    sound.apart d e hd he (isLive_of_subset subset dLive) (isLive_of_subset subset eLive)

theorem subset_collect (heap : Heap) :
    ∀ a ∈ heap.collect.live, ∃ b ∈ heap.live, a.handle = b.handle :=
  fun a found => ⟨a, live_collect_sublist.subset found, rfl⟩

theorem Sound.collect (sound : heap.Sound made) : heap.collect.Sound made :=
  sound.shrink next_collect (subset_collect heap) sound.closed.collect

theorem Sound.retain (sound : heap.Sound made) (handle : Handle) : (heap.retain handle).Sound made :=
  sound.shrink rfl (fun a found => ⟨a, found, rfl⟩) sound.closed

theorem Sound.release (sound : heap.Sound made) (handle : Handle) :
    (heap.release handle).Sound made := by
  have dropped : Heap.Sound { heap with held := heap.held.erase handle } made :=
    sound.shrink rfl (fun a found => ⟨a, found, rfl⟩) sound.closed
  exact dropped.collect

/-- A handle that was made before may be noted again. -/
theorem Sound.note (sound : heap.Sound made) (member : h ∈ made) : heap.Sound (h :: made) := by
  have same (g : Handle) (hg : g ∈ h :: made) : g ∈ made := by
    rcases List.mem_cons.1 hg with rfl | old
    · exact member
    · exact old
  refine ⟨fun g hg => sound.numbered g (same g hg), fun g hg i hi => sound.distinct g (same g hg) i (same i hi),
    fun g hg i stands => ?_, fun a found => ?_, sound.closed,
    fun d e hd he => sound.apart d e (same _ hd) (same _ he)⟩
  · exact List.mem_cons_of_mem _ (sound.inner g (same g hg) i stands)
  · exact List.mem_cons_of_mem _ (sound.known a found)

theorem Sound.withSlots (sound : heap.Sound made) (slots : Slots) :
    Heap.Sound { heap with slots } made :=
  sound.shrink rfl (fun a found => ⟨a, found, rfl⟩) sound.closed

theorem Sound.setFields (sound : heap.Sound made) (entity : Entity) (fields : Fields) :
    (heap.setFields entity fields).Sound made := by
  have put : (heap.put entity fields).Sound made := by
    refine sound.shrink rfl (fun a found => ?_) (sound.closed.put entity fields)
    obtain ⟨b, old, rfl⟩ := List.mem_map.1 found
    exact ⟨b, old, b.handle_withFields⟩
  rw [setFields_eq]
  exact put.collect

/-! ## New allocations -/

/-- The heap with one more allocation, which is held outside. -/
def allocate (heap : Heap) (handle : Handle) (fields : Fields) : Heap :=
  { heap with
    live := ⟨handle, fields⟩ :: heap.live, held := handle :: heap.held, next := heap.next + 1 }

theorem isLive_allocate {handle : Handle} {fields : Fields} {n : Nat} :
    (heap.allocate handle fields).isLive n = true ↔
      handle.allocation = n ∨ heap.isLive n = true := by
  simp [isLive, allocate, Allocation.id]

/-- A new allocation that stands in for something live, or an object at an address where no live
one is. -/
theorem Sound.allocate (sound : heap.Sound made) {handle : Handle} (fields : Fields)
    (new : handle.allocation = heap.next)
    (inner : ∀ i, handle.inner? = some i → i ∈ made ∧ heap.isLive i.allocation = true)
    (free : ∀ e, handle = .object e → ∀ d, .object d ∈ made → heap.isLive d.id = true →
      d.address ≠ e.address) :
    (heap.allocate handle fields).Sound (handle :: made) where
  numbered h member := by
    rcases List.mem_cons.1 member with rfl | old
    · exact new ▸ Nat.lt_succ_self _
    · exact Nat.lt_succ_of_lt (sound.numbered h old)
  distinct g hg h hh same := by
    rcases List.mem_cons.1 hg with rfl | gOld <;> rcases List.mem_cons.1 hh with rfl | hOld
    · rfl
    · have below := sound.numbered h hOld
      omega
    · have below := sound.numbered g gOld
      omega
    · exact sound.distinct g gOld h hOld same
  inner h member i stands := by
    rcases List.mem_cons.1 member with rfl | old
    · exact List.mem_cons_of_mem _ (inner i stands).1
    · exact List.mem_cons_of_mem _ (sound.inner h old i stands)
  known a found := by
    rcases List.mem_cons.1 found with rfl | old
    · exact List.mem_cons_self
    · exact List.mem_cons_of_mem _ (sound.known a old)
  closed := by
    intro a found i stands
    rw [isLive_allocate]
    rcases List.mem_cons.1 found with rfl | old
    · exact .inr (inner i stands).2
    · exact .inr (sound.closed a old i stands)
  apart d e hd he dLive eLive same := by
    have live_of_old {c : Entity} (member : .object c ∈ made)
        (live : (heap.allocate handle fields).isLive c.id = true) : heap.isLive c.id = true := by
      rcases isLive_allocate.1 live with clash | before
      · have below : c.id < heap.next := sound.numbered _ member
        omega
      · exact before
    rcases List.mem_cons.1 hd with dNew | dOld <;> rcases List.mem_cons.1 he with eNew | eOld
    · exact Handle.object.inj (dNew.trans eNew.symm)
    · exact absurd same.symm (free d dNew.symm e eOld (live_of_old eOld eLive))
    · exact absurd same (free e eNew.symm d dOld (live_of_old dOld dLive))
    · exact sound.apart d e dOld eOld (live_of_old dOld dLive) (live_of_old eOld eLive) same

end Heap

end ObjectGraph
