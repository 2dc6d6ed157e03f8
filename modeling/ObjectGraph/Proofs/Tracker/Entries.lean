import Mathlib.Data.List.Pairwise
import ObjectGraph.Identity.Tracker
import ObjectGraph.Proofs.Cache.Calls
import ObjectGraph.Proofs.Heap.Made

/-!
# The entries of a roster

`Roster.Sound` ties the entries of a roster to the handles that were made: each entry is about a
wrapper and what that wraps, and there is one entry for an address.

* `Roster.entry?_eq_some_iff`: a look-up finds the entry of the address, if what was wrapped lives.
* `Roster.prune_cases`, `Roster.Once.lookup_prune`: what a prune leaves, and that no look-up shows it.
* `Tracker.wraps`: the ways in which a wrap ends.
-/

namespace ObjectGraph

namespace Roster

/-- There is one entry for an address. -/
abbrev Once (roster : Roster) : Prop := roster.entries.Pairwise fun t u => t.address ≠ u.address

/-- The entries are about wrappers that were made, one for an address. -/
structure Sound (roster : Roster) (made : List Handle) : Prop where
  wrapped : ∀ t ∈ roster.entries, ∃ id type inner, t.wrapper = .wrapper id type t.slot inner ∧
    t.wrapper ∈ made ∧ inner.allocation = t.allocation ∧ inner.address = t.address
  once : roster.Once

variable {roster : Roster} {made : List Handle} {heap : Heap} {address : UInt64} {t u : RosterEntry}

theorem Sound.empty : Roster.Sound {} made where
  wrapped t member := by cases member
  once := .nil

theorem Sound.mono (sound : roster.Sound made) {made' : List Handle} (subset : made ⊆ made') :
    roster.Sound made' where
  wrapped t member := by
    obtain ⟨id, type, inner, form, known, rest⟩ := sound.wrapped t member
    exact ⟨id, type, inner, form, subset known, rest⟩
  once := sound.once

theorem Once.eq_of_address (once : roster.Once) (ht : t ∈ roster.entries)
    (hu : u ∈ roster.entries) (same : t.address = u.address) : t = u := by
  have symmetric : Std.Symm fun t u : RosterEntry => t.address ≠ u.address :=
    ⟨fun _ _ apart => apart.symm⟩
  by_contra different
  exact once.forall ht hu different same

/-! ## Looking entries up -/

theorem entry?_eq_some_iff (once : roster.Once) :
    roster.entry? heap address = some t ↔
      t ∈ roster.entries ∧ t.address = address ∧ t.isLive heap = true := by
  unfold entry?
  rw [Option.filter_eq_some_iff]
  constructor
  · intro entry
    rcases entry with ⟨found, live⟩
    have here : t.address = address := by simpa using List.find?_some found
    exact ⟨List.mem_of_find?_eq_some found, here, live⟩
  · intro entry
    rcases entry with ⟨member, here, live⟩
    refine ⟨?_, live⟩
    cases found : roster.entries.find? fun t => t.address == address with
    | none =>
      have missing := List.find?_eq_none.1 found t member
      simp [here] at missing
    | some u =>
      have there : u.address = address := by simpa using List.find?_some found
      rw [once.eq_of_address member (List.mem_of_find?_eq_some found) (here.trans there.symm)]

theorem slot?_eq_some_iff (sound : roster.Sound made) {slot : Nat} :
    roster.slot? heap address = some slot ↔
      ∃ t ∈ roster.entries, t.address = address ∧ t.isLive heap = true ∧ t.slot = slot := by
  unfold slot?
  rw [Option.map_eq_some_iff]
  constructor
  · intro has
    rcases has with ⟨t, found, same⟩
    obtain ⟨member, here, live⟩ := (entry?_eq_some_iff sound.once).1 found
    exact ⟨t, member, here, live, same⟩
  · intro has
    rcases has with ⟨t, member, here, live, same⟩
    exact ⟨t, (entry?_eq_some_iff sound.once).2 ⟨member, here, live⟩, same⟩

theorem wrapper?_eq_some_iff (sound : roster.Sound made) {wrapper : Handle} :
    roster.wrapper? heap address = some wrapper ↔
      ∃ t ∈ roster.entries, t.address = address ∧ t.isLive heap = true ∧
        heap.isLive wrapper.allocation = true ∧ t.wrapper = wrapper := by
  unfold wrapper?
  rw [Option.bind_eq_some_iff]
  constructor
  · intro has
    rcases has with ⟨t, found, here⟩
    obtain ⟨member, at_address, live⟩ := (entry?_eq_some_iff sound.once).1 found
    split at here
    · next alive =>
      cases here
      exact ⟨t, member, at_address, live, alive, rfl⟩
    · cases here
  · intro has
    rcases has with ⟨t, member, here, live, alive, rfl⟩
    exact ⟨t, (entry?_eq_some_iff sound.once).2 ⟨member, here, live⟩, if_pos alive⟩

/-! ## Entering and pruning -/

theorem mem_put : u ∈ (roster.put t).entries ↔
    u = t ∨ u ∈ roster.entries ∧ u.address ≠ t.address := by
  simp [put]

theorem Once.put (once : roster.Once) (t : RosterEntry) : (roster.put t).Once := by
  refine List.pairwise_cons.2 ⟨fun u left => ?_, once.sublist List.filter_sublist⟩
  have apart := (List.mem_filter.1 left).2
  rw [bne_iff_ne] at apart
  exact apart.symm

theorem Sound.put (sound : roster.Sound made) {id slot : Nat} {type : WrapperType} {inner : Handle}
    (known : .wrapper id type slot inner ∈ made) :
    (roster.put ⟨inner.address, inner.allocation, slot, .wrapper id type slot inner⟩).Sound made where
  wrapped t member := by
    rcases mem_put.1 member with rfl | ⟨old, -⟩
    · exact ⟨id, type, inner, rfl, known, rfl, rfl⟩
    · exact sound.wrapped t old
  once := sound.once.put _

theorem prune_sublist (roster : Roster) (heap : Heap) :
    (roster.prune heap).1.entries.Sublist roster.entries := by
  unfold prune
  split
  · exact .refl _
  · exact List.filter_sublist

/-- As long as there are few entries all are left, and else the live ones.  Then the next prune is for
when there are twice as many. -/
theorem prune_cases (roster : Roster) (heap : Heap) :
    ((roster.prune heap).1 = roster ∧ roster.size < max roster.pruneAt pruneThreshold) ∨
      ((∀ t ∈ (roster.prune heap).1.entries, t.isLive heap = true) ∧
        (roster.prune heap).1.pruneAt = 2 * (roster.prune heap).1.size) := by
  unfold prune
  split
  · next few => exact .inl ⟨rfl, few⟩
  · exact .inr ⟨fun t left => (List.mem_filter.1 left).2, Nat.mul_comm _ _⟩

/-- Pruning spares the live. -/
theorem mem_prune_of_live (member : t ∈ roster.entries) (live : t.isLive heap = true) :
    t ∈ (roster.prune heap).1.entries := by
  unfold prune
  split
  · exact member
  · exact List.mem_filter.2 ⟨member, live⟩

/-- **Pruning does not show when entries are looked up.** -/
theorem Once.lookup_prune (once : roster.Once) (heap : Heap) (address : UInt64) :
    Roster.entry? (roster.prune heap).1 heap address = roster.entry? heap address := by
  have left : (roster.prune heap).1.Once := once.sublist (prune_sublist roster heap)
  refine Option.ext fun t => ?_
  rw [entry?_eq_some_iff left, entry?_eq_some_iff once]
  constructor
  · intro entry
    obtain ⟨member, here, live⟩ := entry
    exact ⟨(prune_sublist roster heap).subset member, here, live⟩
  · intro entry
    obtain ⟨member, here, live⟩ := entry
    exact ⟨mem_prune_of_live member live, here, live⟩

theorem Sound.prune (sound : roster.Sound made) (heap : Heap) :
    (roster.prune heap).1.Sound made where
  wrapped t member := sound.wrapped t ((prune_sublist roster heap).subset member)
  once := sound.once.sublist (prune_sublist roster heap)

end Roster

namespace Tracker

variable {t : Tracker} {rules : TrackingRules} {h : Handle}

/-- A new wrapper takes the slot of the object, or else the next one. -/
theorem newWrapper_eq (t : Tracker) (h : Handle) (type : WrapperType) : ∃ slot slots,
    (t.roster.slot? t.heap h.address = some slot ∧ slots = t.heap.slots ∨
      t.roster.slot? t.heap h.address = none ∧ (slot, slots) = t.heap.slots.fresh) ∧
    (t.newWrapper h type).1 = .wrapper t.heap.next type slot h ∧
    (t.newWrapper h type).2.1 =
      let wrapper := Handle.wrapper t.heap.next type slot h
      let heap := { t.heap with slots }.allocate wrapper {}
      { t with
        heap, roster := ((t.roster.put ⟨h.address, h.allocation, slot, wrapper⟩).prune heap).1 } := by
  unfold newWrapper slotFor
  cases known : t.roster.slot? t.heap h.address with
  | some slot => exact ⟨slot, t.heap.slots, .inl ⟨rfl, rfl⟩, rfl, rfl⟩
  | none => exact ⟨_, _, .inr ⟨rfl, rfl⟩, rfl, rfl⟩

/-- How a wrap of a handle ends. -/
inductive Wraps (t : Tracker) (rules : TrackingRules) (h : Handle) :
    Outcome Tracker IdentityError Handle → Prop
  | unknown {e : SchemaError} : h.isWrapper = false → rules.schema.classOf h = .error e →
    Wraps t rules h (.failed t (.schema e))
  /-- There is no wrapper type in the cache, and none can be built. -/
  | refused {info : EntityClass} {obstacle : WrapperObstacle} {events : List Event} :
    h.isWrapper = false → rules.schema.classOf h = .ok info → info.holdsIdentity = false →
    t.roster.wrapper? t.heap h.address = none → t.cache.find? info.typeName = none →
    info.wrapperObstacle? = some obstacle →
    Wraps t rules h ⟨.error (.wrapperConstruction info.typeName obstacle), t, events⟩
  /-- The handle carries an identity already. -/
  | own : (h.isWrapper = true ∨
      ∃ info, rules.schema.classOf h = .ok info ∧ info.holdsIdentity = true) →
    Wraps t rules h (t.share h)
  | found {wrapper : Handle} {info : EntityClass} : h.isWrapper = false →
    rules.schema.classOf h = .ok info → info.holdsIdentity = false →
    t.roster.wrapper? t.heap h.address = some wrapper → Wraps t rules h (t.share wrapper)
  | new {type : WrapperType} {cache : WrapperCache} {info : EntityClass} {events : List Event} :
    h.isWrapper = false → rules.schema.classOf h = .ok info → info.holdsIdentity = false →
    t.roster.wrapper? t.heap h.address = none →
    Wraps t rules h ⟨.ok ({ t with cache }.newWrapper h type).1,
      ({ t with cache }.newWrapper h type).2.1, events⟩

theorem wraps (t : Tracker) (rules : TrackingRules) (h : Handle) : Wraps t rules h (t.wrap rules h) := by
  unfold wrap
  split
  · next wrapper => exact .own (.inl wrapper)
  · next bare =>
    rw [Bool.not_eq_true] at bare
    split
    · next e missing => exact .unknown bare missing
    · next info registered =>
      split
      · next holds => exact .own (.inr ⟨info, registered, holds⟩)
      · next plain =>
        rw [Bool.not_eq_true] at plain
        split
        · next wrapper found => exact .found bare registered plain found
        · next none =>
          dsimp only
          rw [WrapperCache.building_eq]
          have ways := t.cache.finds info.typeName (WrapperCache.planOf info)
          generalize t.cache.getOrBuild info.typeName _ = o at ways ⊢
          cases ways with
          | hit | built => exact .new bare registered plain none
          | failed missing planned =>
            obtain ⟨obstacle, found, rfl⟩ := WrapperCache.planOf_eq_error_iff.1 planned
            exact .refused bare registered plain none missing found

end Tracker

end ObjectGraph
