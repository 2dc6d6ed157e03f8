import Mathlib.Data.List.Find
import ObjectGraph.Heap

/-!
# What a collection leaves

`Heap.collect` sweeps until every allocation is referred to.  What every sweep preserves is true of
the collection, and each sweep only takes allocations away that nothing refers to.

* `Heap.collect_induction`: the induction over the sweeps.
* `Heap.Closed`: live stand-ins stand in for something live; a collection keeps it so.
* `Heap.Reached`: what the references held outside lead to, which no collection takes away.
-/

namespace ObjectGraph

/-- The allocation, with other fields if it is the given object. -/
def Allocation.withFields (entity : Entity) (fields : Fields) (a : Allocation) : Allocation :=
  if a.id == entity.id then { a with fields } else a

theorem Allocation.handle_withFields {entity : Entity} {fields : Fields} (a : Allocation) :
    (a.withFields entity fields).handle = a.handle := by
  unfold withFields
  split
  · rfl
  · rfl

theorem Allocation.id_withFields {entity : Entity} {fields : Fields} (a : Allocation) :
    (a.withFields entity fields).id = a.id := by
  rw [id, handle_withFields, id]

namespace Heap

variable {h : Heap}

/-! ## Sweeps -/

theorem collect_induction {P : Heap → Prop} (start : P h) (sweep : ∀ g, P g → P g.sweep) :
    P h.collect := by
  induction h using Heap.collect.induct with
  | case1 h shorter ih =>
    rw [collect, if_pos shorter]
    exact ih (sweep h start)
  | case2 h same =>
    rw [collect, if_neg same]
    exact start

/-- A collection that is done after one sweep. -/
theorem collect_eq_sweep (fewer : h.sweep.live.length < h.live.length)
    (done : ¬ h.sweep.sweep.live.length < h.sweep.live.length) : h.collect = h.sweep := by
  rw [collect, if_pos fewer, collect, if_neg done]

theorem mem_live_sweep {a : Allocation} : a ∈ h.sweep.live ↔ a ∈ h.live ∧ a.id ∈ h.references := by
  simp [sweep]

theorem isLive_iff {n : Nat} : h.isLive n = true ↔ ∃ a ∈ h.live, a.id = n := by
  simp [isLive]

theorem live_collect_sublist : h.collect.live.Sublist h.live := by
  refine collect_induction (P := fun g => g.live.Sublist h.live) (.refl _) fun g ih => ?_
  exact List.filter_sublist.trans ih

theorem live_release_sublist {handle : Handle} : (h.release handle).live.Sublist h.live :=
  live_collect_sublist

theorem slots_collect : h.collect.slots = h.slots :=
  collect_induction (P := fun g => g.slots = h.slots) rfl fun _ ih => ih

theorem held_collect : h.collect.held = h.held :=
  collect_induction (P := fun g => g.held = h.held) rfl fun _ ih => ih

theorem next_collect : h.collect.next = h.next :=
  collect_induction (P := fun g => g.next = h.next) rfl fun _ ih => ih

/-! ## Stand-ins keep what they stand in for -/

/-- Whatever a live stand-in stands in for is alive. -/
def Closed (h : Heap) : Prop :=
  ∀ a ∈ h.live, ∀ inner, a.handle.inner? = some inner → h.isLive inner.allocation = true

theorem Closed.sweep (closed : h.Closed) : h.sweep.Closed := by
  intro a kept inner stands
  have old : a ∈ h.live := (mem_live_sweep.1 kept).1
  obtain ⟨b, found, same⟩ := isLive_iff.1 (closed a old inner stands)
  have referred : b.id ∈ h.references := by
    rw [same]
    refine List.mem_append_right _ (List.mem_flatMap.2 ⟨a, old, ?_⟩)
    simp [Allocation.references, stands]
  exact isLive_iff.2 ⟨b, mem_live_sweep.2 ⟨found, referred⟩, same⟩

theorem Closed.collect (closed : h.Closed) : h.collect.Closed :=
  collect_induction closed fun _ ih => ih.sweep

/-! ## Fields that are put in place -/

/-- The heap with other fields of an object, before anything is collected. -/
def put (h : Heap) (entity : Entity) (fields : Fields) : Heap :=
  { h with live := h.live.map (Allocation.withFields entity fields) }

theorem setFields_eq (entity : Entity) (fields : Fields) :
    h.setFields entity fields = (h.put entity fields).collect := rfl

theorem isLive_put {entity : Entity} {fields : Fields} {n : Nat} :
    (h.put entity fields).isLive n = h.isLive n := by
  simp [isLive, put, Function.comp_def, Allocation.id_withFields]

theorem Closed.put (closed : h.Closed) (entity : Entity) (fields : Fields) :
    (h.put entity fields).Closed := by
  intro a found inner stands
  obtain ⟨b, old, rfl⟩ := List.mem_map.1 found
  rw [Allocation.handle_withFields] at stands
  rw [isLive_put]
  exact closed b old inner stands

/-! ## Fields after a collection -/

section Kept

variable {d e : Entity} {fields : Fields} {n : Nat}

theorem isLive_of_sweep (live : h.sweep.isLive n = true) : h.isLive n = true := by
  obtain ⟨a, kept, same⟩ := isLive_iff.1 live
  exact isLive_iff.2 ⟨a, (mem_live_sweep.1 kept).1, same⟩

theorem isLive_of_collect (live : h.collect.isLive n = true) : h.isLive n = true :=
  collect_induction (P := fun g => g.isLive n = true → h.isLive n = true) id
    (fun _ ih after => ih (isLive_of_sweep after)) live

theorem fieldsOf_sweep (live : h.sweep.isLive e.id = true) : h.sweep.fieldsOf e = h.fieldsOf e := by
  obtain ⟨a, kept, same⟩ := isLive_iff.1 live
  have referred : e.id ∈ h.references := same ▸ (mem_live_sweep.1 kept).2
  -- A sweep looks at numbers only, so the first allocation of a number stays the first.
  have found : h.sweep.live.find? (fun b => b.id == e.id) = h.live.find? fun b => b.id == e.id := by
    rw [sweep, List.find?_filter]
    refine List.find?_congr fun b _ => ?_
    by_cases mine : b.id = e.id
    · simp [mine, referred]
    · simp [mine]
  rw [fieldsOf, found, fieldsOf]

/-- What a collection leaves alive keeps its fields. -/
theorem fieldsOf_collect (live : h.collect.isLive e.id = true) :
    h.collect.fieldsOf e = h.fieldsOf e := by
  refine collect_induction (P := fun g => g.isLive e.id = true → g.fieldsOf e = h.fieldsOf e)
    (fun _ => rfl) (fun g ih after => ?_) live
  rw [fieldsOf_sweep after]
  exact ih (isLive_of_sweep after)

theorem find?_put (entity : Entity) (fields : Fields) (n : Nat) :
    (h.put entity fields).live.find? (fun a => a.id == n) =
      (h.live.find? fun a => a.id == n).map (Allocation.withFields entity fields) := by
  rw [put, List.find?_map]
  simp only [Function.comp_def, Allocation.id_withFields]

theorem fieldsOf_put_of_ne (other : d.id ≠ e.id) : (h.put e fields).fieldsOf d = h.fieldsOf d := by
  rw [fieldsOf, find?_put, fieldsOf]
  cases found : h.live.find? fun a => a.id == d.id with
  | none => rfl
  | some a =>
    have mine : a.id = d.id := by simpa using List.find?_some found
    simp [Allocation.withFields, mine, other]

theorem fieldsOf_put_self (live : h.isLive e.id = true) : (h.put e fields).fieldsOf e = fields := by
  rw [fieldsOf, find?_put]
  obtain ⟨b, there, same⟩ := isLive_iff.1 live
  cases found : h.live.find? fun a => a.id == e.id with
  | none =>
    have missing := List.find?_eq_none.1 found b there
    simp [same] at missing
  | some a =>
    have mine : a.id = e.id := by simpa using List.find?_some found
    simp [Allocation.withFields, mine]

theorem isLive_of_setFields (live : (h.setFields e fields).isLive n = true) : h.isLive n = true := by
  rw [setFields_eq] at live
  rw [← isLive_put]
  exact isLive_of_collect live

theorem fieldsOf_setFields_of_ne (other : d.id ≠ e.id)
    (live : (h.setFields e fields).isLive d.id = true) :
    (h.setFields e fields).fieldsOf d = h.fieldsOf d := by
  rw [setFields_eq] at live ⊢
  rw [fieldsOf_collect live, fieldsOf_put_of_ne other]

theorem fieldsOf_setFields_self (live : (h.setFields e fields).isLive e.id = true) :
    (h.setFields e fields).fieldsOf e = fields := by
  have before := isLive_of_setFields live
  rw [setFields_eq] at live ⊢
  rw [fieldsOf_collect live, fieldsOf_put_self before]

end Kept

/-! ## What is reached from outside -/

/-- The references that are held outside lead to the allocation. -/
inductive Reached (h : Heap) : Nat → Prop
  | held {handle : Handle} : handle ∈ h.held → Reached h handle.allocation
  | through {a : Allocation} {n : Nat} :
    a ∈ h.live → Reached h a.id → n ∈ a.references → Reached h n

theorem Reached.mem_references {n : Nat} (reached : h.Reached n) : n ∈ h.references := by
  cases reached with
  | held holds => exact List.mem_append_left _ (List.mem_map_of_mem holds)
  | through live _ refers => exact List.mem_append_right _ (List.mem_flatMap.2 ⟨_, live, refers⟩)

theorem Reached.sweep {n : Nat} (reached : h.Reached n) : h.sweep.Reached n := by
  induction reached with
  | held holds => exact .held holds
  | through live before refers ih =>
    exact .through (mem_live_sweep.2 ⟨live, before.mem_references⟩) ih refers

/-- A collection takes nothing away that is reached, and it stays reached. -/
theorem Reached.collect {a : Allocation} (reached : h.Reached a.id) (live : a ∈ h.live) :
    h.collect.Reached a.id ∧ a ∈ h.collect.live := by
  refine collect_induction (P := fun g => g.Reached a.id ∧ a ∈ g.live) ⟨reached, live⟩ ?_
  intro g ih
  obtain ⟨before, there⟩ := ih
  exact ⟨before.sweep, mem_live_sweep.2 ⟨there, before.mem_references⟩⟩

/-! ## Other fields of an object that is reached -/

/-- What an object refers to does not matter for whether it is reached itself: a way that leads
through the object leads to it before. -/
theorem Reached.put_or {n : Nat} (reached : h.Reached n) (entity : Entity) (fields : Fields) :
    (h.put entity fields).Reached n ∨ (h.put entity fields).Reached entity.id := by
  induction reached with
  | held holds => exact .inl (.held holds)
  | @through a n live before refers ih =>
    rcases ih with here | there
    · by_cases same : a.id = entity.id
      · rw [same] at here
        exact .inr here
      · have unchanged : a.withFields entity fields = a := by
          unfold Allocation.withFields
          rw [if_neg]
          simpa using same
        have still : a ∈ (h.put entity fields).live := by
          rw [← unchanged]
          exact List.mem_map_of_mem live
        exact .inl (.through still here refers)
    · exact .inr there

theorem Reached.put {entity : Entity} (reached : h.Reached entity.id) (fields : Fields) :
    (h.put entity fields).Reached entity.id := by
  rcases reached.put_or entity fields with here | here
  · exact here
  · exact here

/-- **An object that is reached keeps the fields that it is given, and stays reached.** -/
theorem setFields_of_reached {entity : Entity} (reached : h.Reached entity.id)
    (live : h.isLive entity.id = true) (fields : Fields) :
    (h.setFields entity fields).Reached entity.id ∧
      (h.setFields entity fields).isLive entity.id = true ∧
      (h.setFields entity fields).fieldsOf entity = fields := by
  obtain ⟨a, found, same⟩ := isLive_iff.1 live
  have id : (a.withFields entity fields).id = entity.id := a.id_withFields.trans same
  have before : (h.put entity fields).Reached (a.withFields entity fields).id := by
    rw [id]
    exact reached.put fields
  obtain ⟨after, kept⟩ := before.collect (List.mem_map_of_mem found)
  rw [id] at after
  have alive : (h.setFields entity fields).isLive entity.id = true := isLive_iff.2 ⟨_, kept, id⟩
  exact ⟨after, alive, fieldsOf_setFields_self alive⟩

end Heap

end ObjectGraph
