import Mathlib.Data.Finset.Card
import ObjectGraph.Proofs.Tracker.Faithful

/-!
# The roster is bounded by what lives

Entries of dead objects stay in the roster for a while.  They are removed when there are twice as many
entries as were left the last time, and what was left then were live objects.  So the number of entries
is bounded by the largest number of wrapped objects that were alive at one time, however many have come
and gone.

* `Session.PeakRun`: a run, with that number.
* `Session.Effect.sized`: every operation keeps the bound.
* `Session.roster_bounded`: the bounds after any run, and that no entry of a live object is lost.
-/

namespace ObjectGraph

namespace Session

variable {permits : TrackingRules → Handle → Prop} {s s' : Session} {peak : Nat}

/-- The handle is the object itself or an identity wrapper, whatever the rules. -/
def Direct (_ : TrackingRules) (h : Handle) : Prop := ∀ n inner, h ≠ .standIn n inner

/-! ## Wrapped objects that are alive -/

/-- The numbers of the live objects of which wrappers were made. -/
def wrappedAlive (s : Session) : Finset Nat :=
  ((s.made.filter Handle.isWrapper).map fun w => w.target.id).toFinset.filter fun n =>
    s.tracker.heap.isLive n = true

theorem mem_wrappedAlive {n : Nat} : n ∈ s.wrappedAlive ↔
    s.tracker.heap.isLive n = true ∧ ∃ e slot, s.HasSlot e slot ∧ e.id = n := by
  simp only [wrappedAlive, Finset.mem_filter, List.mem_toFinset, List.mem_map, List.mem_filter]
  constructor
  · intro wrapped
    obtain ⟨⟨w, ⟨member, wrapper⟩, same⟩, live⟩ := wrapped
    cases w with
    | object e => cases wrapper
    | standIn n inner => cases wrapper
    | wrapper n type slot inner =>
      exact ⟨live, inner.target, slot, ⟨n, type, inner, member, rfl⟩, same⟩
  · intro wrapped
    obtain ⟨live, e, slot, ⟨n, type, inner, member, rfl⟩, same⟩ := wrapped
    exact ⟨⟨_, ⟨member, rfl⟩, same⟩, live⟩

/-- The roster has an entry for each of them. -/
theorem Sound.card_le_tracked (sound : s.Sound) (tied : ∀ e, s.Tied e) :
    s.wrappedAlive.card ≤ s.tracker.tracked := by
  have entered : s.wrappedAlive ⊆
      (s.tracker.roster.entries.map fun t => t.wrapper.target.id).toFinset := by
    intro n wrapped
    obtain ⟨live, e, slot, has, rfl⟩ := mem_wrappedAlive.1 wrapped
    obtain ⟨t, member, -, -, -, about⟩ := (tied e).exists_entry sound has live
    exact List.mem_toFinset.2 (List.mem_map.2 ⟨t, member, congrArg Entity.id about⟩)
  calc s.wrappedAlive.card
      ≤ (s.tracker.roster.entries.map fun t => t.wrapper.target.id).toFinset.card :=
        Finset.card_le_card entered
    _ ≤ (s.tracker.roster.entries.map fun t => t.wrapper.target.id).length :=
        List.toFinset_card_le _
    _ = s.tracker.tracked := List.length_map _

/-- Entries are about different objects. -/
theorem Sound.nodup_allocations (sound : s.Sound) (wraps : s.WrapsObjects) :
    (s.tracker.roster.entries.map RosterEntry.allocation).Nodup := by
  refine List.pairwise_map.2 (sound.roster.once.imp_of_mem fun {t u} ht hu apart same => apart ?_)
  have made (v : RosterEntry) (member : v ∈ s.tracker.roster.entries) :
      .object v.wrapper.target ∈ s.made := by
    obtain ⟨-, -, -, -, known, -⟩ := sound.roster.wrapped v member
    exact sound.heap.target_mem known
  rw [sound.allocation_eq wraps ht, sound.allocation_eq wraps hu] at same
  have target := sound.heap.object_eq (made t ht) (made u hu) same
  rw [sound.entry_address ht, sound.entry_address hu, Handle.address, Handle.address, target]

/-- If all entries count there are no others. -/
theorem Sound.tracked_le_card (sound : s.Sound) (wraps : s.WrapsObjects)
    (live : ∀ t ∈ s.tracker.roster.entries, t.isLive s.tracker.heap = true) :
    s.tracker.tracked ≤ s.wrappedAlive.card := by
  have alive : (s.tracker.roster.entries.map RosterEntry.allocation).toFinset ⊆ s.wrappedAlive := by
    intro n entered
    obtain ⟨t, member, rfl⟩ := List.mem_map.1 (List.mem_toFinset.1 entered)
    obtain ⟨m, type, inner, form, known, -⟩ := sound.roster.wrapped t member
    rw [form] at known
    refine mem_wrappedAlive.2 ⟨live t member, inner.target, t.slot, ⟨m, type, inner, known, rfl⟩, ?_⟩
    rw [sound.allocation_eq wraps member, form]
    rfl
  calc s.tracker.tracked
      = (s.tracker.roster.entries.map RosterEntry.allocation).length := (List.length_map _).symm
    _ = (s.tracker.roster.entries.map RosterEntry.allocation).toFinset.card :=
        (List.toFinset_card_of_nodup (sound.nodup_allocations wraps)).symm
    _ ≤ s.wrappedAlive.card := Finset.card_le_card alive

/-! ## The bound -/

/-- A run, with the largest number of wrapped objects that were alive at one time. -/
inductive PeakRun (permits : TrackingRules → Handle → Prop) (first : Session) :
    Session → Nat → Prop
  | refl : PeakRun permits first first first.wrappedAlive.card
  | tail {s s' : Session} {peak : Nat} : PeakRun permits first s peak → Step permits s s' →
    PeakRun permits first s' (max peak s'.wrappedAlive.card)

theorem Run.exists_peak {first : Session} (run : Run permits first s) :
    ∃ peak, PeakRun permits first s peak := by
  induction run with
  | refl => exact ⟨_, .refl⟩
  | tail _ step ih =>
    obtain ⟨peak, before⟩ := ih
    exact ⟨_, before.tail step⟩

/-- The roster, and the number of entries at which it is pruned, are as large as the largest number of
wrapped objects permits. -/
structure Sized (peak : Nat) (s : Session) : Prop where
  alive : s.wrappedAlive.card ≤ peak
  next : s.tracker.roster.pruneAt ≤ 2 * peak
  size : s.tracker.tracked < max Roster.pruneThreshold (2 * peak)

theorem Sized.start (cache : WrapperCache) : (start cache).Sized (start cache).wrappedAlive.card where
  alive := Nat.le_refl _
  next := Nat.zero_le _
  size := by
    have threshold : 0 < Roster.pruneThreshold := by decide
    exact Nat.lt_of_lt_of_le threshold (Nat.le_max_left _ _)

/-- The same entries, whatever lives. -/
theorem Sized.of_roster_eq (sized : s.Sized peak) (same : s'.tracker.roster = s.tracker.roster) :
    s'.Sized (max peak s'.wrappedAlive.card) := by
  have next := sized.next
  have size := sized.size
  refine ⟨Nat.le_max_right _ _, ?_, ?_⟩
  · rw [same]
    omega
  · rw [Tracker.tracked, same]
    rw [Tracker.tracked] at size
    omega

/-- After a prune there are few entries, or each of them is about a live object. -/
theorem Sized.of_prune {roster : Roster}
    (pruned : s'.tracker.roster = (roster.prune s'.tracker.heap).1)
    (next : roster.pruneAt ≤ 2 * peak) (sound : s'.Sound) (wraps : s'.WrapsObjects) :
    s'.Sized (max peak s'.wrappedAlive.card) := by
  have threshold : 0 < Roster.pruneThreshold := by decide
  rcases roster.prune_cases s'.tracker.heap with ⟨same, few⟩ | ⟨live, twice⟩
  · rw [same] at pruned
    refine ⟨Nat.le_max_right _ _, ?_, ?_⟩
    · rw [pruned]
      omega
    · rw [Tracker.tracked, pruned]
      omega
  · rw [← pruned] at live twice
    have alive := sound.tracked_le_card wraps live
    rw [Tracker.tracked] at alive
    refine ⟨Nat.le_max_right _ _, ?_, ?_⟩
    · omega
    · rw [Tracker.tracked]
      omega

/-- **Every operation keeps the bound.** -/
theorem Effect.sized (effect : Effect permits s s') (sized : s.Sized peak) (sound : s'.Sound)
    (wraps : s'.WrapsObjects) : s'.Sized (max peak s'.wrappedAlive.card) := by
  cases effect with
  | quiet quiet => exact sized.of_roster_eq quiet.roster
  | shared _ quiet => exact sized.of_roster_eq quiet.roster
  | written _ _ _ quiet => exact sized.of_roster_eq quiet.roster
  | stored => exact sized.of_roster_eq rfl
  | wrapped => exact .of_prune rfl sized.next sound wraps

theorem PeakRun.sized {cache : WrapperCache} (run : PeakRun Direct (Session.start cache) s peak) :
    s.Rostered ∧ (∀ e, s.Tied e) ∧ s.WrapsObjects ∧ s.Sized peak := by
  induction run with
  | refl => exact ⟨.start cache, fun _ => .start cache, .start cache, .start cache⟩
  | tail _ step ih =>
    obtain ⟨rostered, tied, wraps, sized⟩ := ih
    have effect := rostered.effect step
    have after := effect.rostered rostered
    have direct := effect.wrapsObjects (fun _ _ permitted => permitted) wraps
    exact ⟨after, fun e => effect.tied rostered (tied e) (after.kept direct), direct,
      effect.sized sized after.toSound direct⟩

/-- **The roster is bounded by what lives.**  After any run that wraps objects themselves there are at
least as many entries as wrapped objects are alive, and fewer than twice as many as were ever alive at
one time, or than the number below which nothing is pruned.  A wrapped object has one slot, by which
the roster knows it for as long as it lives.  And whatever entry is put, and whatever lives, a prune
after that does not show when entries are looked up. -/
theorem roster_bounded {cache : WrapperCache} (run : PeakRun Direct (start cache) s peak) :
    s.wrappedAlive.card ≤ s.tracker.tracked ∧
    s.tracker.tracked < max Roster.pruneThreshold (2 * peak) ∧
    (∀ e m n, s.HasSlot e m → s.HasSlot e n → m = n) ∧
    (∀ e slot, s.HasSlot e slot → s.tracker.heap.isLive e.id = true →
      s.tracker.roster.slot? s.tracker.heap e.address = some slot) ∧
    ∀ t heap address, Roster.entry? ((s.tracker.roster.put t).prune heap).1 heap address =
      Roster.entry? (s.tracker.roster.put t) heap address := by
  obtain ⟨rostered, tied, -, sized⟩ := run.sized
  refine ⟨rostered.card_le_tracked tied, sized.size, fun e => (tied e).one,
    fun e => (tied e).entered, fun t heap address => ?_⟩
  exact (rostered.roster.once.put t).lookup_prune heap address

/-- An object is wrapped and dies, and another one is wrapped: both have an entry, and one is alive. -/
theorem roster_bounded_dead :
    let node : Nat → Entity := fun n => ⟨n, 16 * (UInt64.ofNat n + 1), "Node", "node", "#", .identity⟩
    let w := Handle.wrapper 3 ⟨0, "node", "node$IdentityWrapper"⟩ 1 (.object (node 2))
    ∃ s peak, PeakRun Direct (start { capacity := 1 }) s peak ∧ s.Usable w ∧
      s.tracker.heap.isLive (node 0).id = false ∧ s.wrappedAlive = {2} ∧ s.tracker.tracked = 2 ∧
      s.tracker.tracked < max Roster.pruneThreshold (2 * peak) ∧
      s.tracker.roster.slot? s.tracker.heap (node 2).address = some 1 := by
  intro node w
  let rules : TrackingRules := { schema := ⟨⟨[("node", { typeName := "node" })]⟩⟩ }
  let wrapped := ((start { capacity := 1 }).create node {}).wrap rules (.object (node 0))
  let bare := wrapped.withHeap { wrapped.tracker.heap with held := [.object (node 0)] }.sweep
  let gone := bare.withHeap { bare.tracker.heap with held := [] }.sweep
  let s := (gone.create node {}).wrap rules (.object (node 2))
  have direct (e : Entity) : Direct rules (.object e) := fun n inner same => by cases same
  have wrapperDropped : Step Direct wrapped bare := by
    have collected : wrapped.tracker.heap.release
        (.wrapper 1 ⟨0, "node", "node$IdentityWrapper"⟩ 0 (.object (node 0))) = bare.tracker.heap :=
      Heap.collect_eq_sweep (by decide) (by decide)
    have same : bare = wrapped.withHeap bare.tracker.heap := rfl
    rw [same, ← collected]
    exact .drop
  have objectDropped : Step Direct bare gone := by
    have collected : bare.tracker.heap.release (.object (node 0)) = gone.tracker.heap :=
      Heap.collect_eq_sweep (by decide) (by decide)
    have same : gone = bare.withHeap gone.tracker.heap := rfl
    rw [same, ← collected]
    exact .drop
  have first : Run Direct (start { capacity := 1 }) wrapped :=
    .tail (.single (.first rfl)) (.wrap ⟨List.mem_cons_self, rfl⟩ (direct _))
  have empty : gone.tracker.heap.live = [] := by decide
  have second : Run Direct gone s := by
    refine .tail (.single (.create rfl ?_)) (.wrap ⟨List.mem_cons_self, rfl⟩ (direct _))
    intro e usable
    have live := usable.2
    rw [Heap.isLive, empty] at live
    cases live
  have run : Run Direct (start { capacity := 1 }) s :=
    ((first.tail wrapperDropped).tail objectDropped).trans second
  have usable : s.Usable w := ⟨List.mem_cons_self, by decide⟩
  have dead : s.tracker.heap.isLive (node 0).id = false := by decide
  have tracked : s.tracker.tracked = 2 := by decide
  have alive : s.tracker.heap.isLive (node 2).id = true := by decide
  have wrapped : s.wrappedAlive = {2} := by decide
  obtain ⟨peak, peaked⟩ := run.exists_peak
  obtain ⟨-, bound, -, slot, -⟩ := roster_bounded peaked
  exact ⟨s, peak, peaked, usable, dead, wrapped, tracked, bound,
    slot (node 2) 1 ⟨3, _, _, usable.1, rfl⟩ alive⟩

end Session

end ObjectGraph
