import ObjectGraph.Proofs.Tracker.Loyal

/-!
# The tracker keeps the ledger

As long as only objects and wrappers are wrapped, a tracker answers what the ledger says.  The
invariant is `Session.Faithful`: an object has one slot for its whole life, shared with no other one,
its entry stays in the roster while the object lives, and the slot holds what the ledger holds.

* `Session.Step.faithful`: every operation keeps the invariant.
* `Session.reads_ledger`: after any run, what the tracker reads and where it records.
-/

namespace ObjectGraph

namespace Session

/-- What holds between the operations. -/
structure Faithful (s : Session) : Prop where
  heap : s.tracker.heap.Sound s.made
  roster : s.tracker.roster.Sound s.made
  /-- Wrappers wrap the objects themselves. -/
  direct : ∀ n type slot inner, .wrapper n type slot inner ∈ s.made → inner = .object inner.target
  inside : ∀ e slot, s.HasSlot e slot → slot < s.tracker.heap.slots.cells.length
  /-- The roster knows the slot of an object for as long as the object lives. -/
  entered : ∀ e slot, s.HasSlot e slot → s.tracker.heap.isLive e.id = true →
    ∃ t ∈ s.tracker.roster.entries, t.address = e.address ∧ t.allocation = e.id ∧ t.slot = slot
  separate : ∀ d m e n, s.HasSlot d m → s.HasSlot e n → (m = n ↔ d = e)
  recorded : ∀ e slot, s.HasSlot e slot →
    s.ledger e.id = some (s.tracker.heap.slots.get slot)
  unwrapped : ∀ n, (∀ e slot, s.HasSlot e slot → e.id ≠ n) → s.ledger n = none

variable {permits : TrackingRules → Handle → Prop} {s s' : Session} {h : Handle} {e : Entity}
  {rules : TrackingRules}

/-! ## Wrappers of the objects themselves -/

/-- Wrappers wrap the objects themselves. -/
def WrapsObjects (s : Session) : Prop :=
  ∀ n type slot inner, .wrapper n type slot inner ∈ s.made → inner = .object inner.target

theorem WrapsObjects.start (cache : WrapperCache) : (start cache).WrapsObjects :=
  fun _ _ _ _ member => by cases member

/-- What is no stand-in, bare or with an identity, is the object itself. -/
theorem eq_object_of_direct (direct : ∀ n inner, h ≠ .standIn n inner) (bare : h.isWrapper = false) :
    h = .object h.target := by
  cases h with
  | object e => rfl
  | standIn n inner => exact absurd rfl (direct n inner)
  | wrapper n type slot inner => cases bare

theorem WrapsObjects.quiet (wraps : s.WrapsObjects) (quiet : Quiet s s') : s'.WrapsObjects :=
  fun n type slot inner member => wraps n type slot inner (quiet.wrappers _ member rfl)

/-- As long as no bare stand-ins are wrapped, wrappers wrap the objects themselves. -/
theorem Effect.wrapsObjects (effect : Effect permits s s')
    (direct : ∀ rules h, permits rules h → ∀ n inner, h ≠ .standIn n inner)
    (wraps : s.WrapsObjects) : s'.WrapsObjects := by
  cases effect with
  | quiet quiet => exact wraps.quiet quiet
  | shared _ quiet => exact wraps.quiet quiet
  | written _ _ _ quiet => exact wraps.quiet quiet
  | stored => exact wraps
  | wrapped permitted bare =>
    intro n type slot inner member
    rcases List.mem_cons.1 member with new | old
    · cases new
      exact eq_object_of_direct (direct _ _ permitted) bare
    · exact wraps n type slot inner old

/-- An entry lives as long as its object. -/
theorem Sound.allocation_eq (sound : s.Sound) (wraps : s.WrapsObjects) {t : RosterEntry}
    (member : t ∈ s.tracker.roster.entries) : t.allocation = t.wrapper.target.id := by
  obtain ⟨n, type, inner, form, known, allocation, -⟩ := sound.roster.wrapped t member
  rw [form] at known
  rw [form, ← allocation, wraps n type t.slot inner known]
  rfl

theorem Sound.kept (sound : s.Sound) (wraps : s.WrapsObjects) : s.Kept e := by
  intro t member about live
  rw [RosterEntry.isLive, sound.allocation_eq wraps member, about]
  exact live

/-! ## The invariant is kept -/

/-- The tracker is faithful to each object. -/
theorem Faithful.loyal (faithful : s.Faithful) : s.Loyal e where
  one m n hm hn := (faithful.separate e m e n hm hn).2 rfl
  entered slot has live := by
    obtain ⟨t, member, here, allocation, same⟩ := faithful.entered e slot has live
    have alive : t.isLive s.tracker.heap = true := by
      rw [RosterEntry.isLive, allocation]
      exact live
    exact (Roster.slot?_eq_some_iff faithful.roster).2 ⟨t, member, here, alive, same⟩
  recorded := faithful.recorded e
  unwrapped := faithful.unwrapped

theorem Rostered.faithful (rostered : s.Rostered) (wraps : s.WrapsObjects)
    (loyal : ∀ e, s.Loyal e) : s.Faithful where
  heap := rostered.heap
  roster := rostered.roster
  direct := wraps
  inside := rostered.inside
  entered e slot has live := by
    obtain ⟨t, member, here, -, same, about⟩ := (loyal e).exists_entry rostered.toSound has live
    refine ⟨t, member, here, ?_, same⟩
    rw [rostered.allocation_eq wraps member, about]
  separate d m e n hd he :=
    ⟨fun same => rostered.separate d e m hd (same ▸ he), fun same => (loyal d).one m n hd (same ▸ he)⟩
  recorded e := (loyal e).recorded
  -- whichever object is asked about
  unwrapped := (loyal ⟨0, 0, "", "", "", .identity⟩).unwrapped

theorem Faithful.start (cache : WrapperCache) : (start cache).Faithful :=
  (Rostered.start cache).faithful (.start cache) fun _ => .start cache

/-- **Every operation keeps the invariant.** -/
theorem Step.faithful (step : Step Plain s s') (rostered : s.Rostered) (faithful : s.Faithful) :
    s'.Faithful := by
  have effect := rostered.effect step
  have after := effect.rostered rostered
  have wraps := effect.wrapsObjects (fun _ _ plain => plain.2) faithful.direct
  exact after.faithful wraps fun e =>
    effect.loyal (fun _ _ plain => plain.1) rostered faithful.loyal (after.kept wraps)

theorem Run.faithful {cache : WrapperCache} (run : Run Plain (Session.start cache) s) :
    s.Faithful := by
  induction run with
  | refl => exact .start cache
  | tail before step ih => exact step.faithful (Run.rostered before) ih

/-! ## Answers -/

/-- What a live handle leads the tracker to is what the ledger holds. -/
theorem Faithful.slots_get (faithful : s.Faithful) (usable : s.Usable h) :
    (s.tracker.slot? h).map s.tracker.heap.slots.get = s.ledger h.target.id :=
  faithful.loyal.slots_get ⟨faithful.heap, faithful.roster⟩ usable

/-- **The tracker keeps the ledger.**  After any run, through any live handle of an object whose type
has no identity field: the identity is the one stored last, if the object was ever wrapped; and it
has none, and none can be recorded, if it never was. -/
theorem reads_ledger {cache : WrapperCache} {info : EntityClass}
    (run : Run Plain (start cache) s) (usable : s.Usable h)
    (registered : rules.schema.classOf h = .ok info) (noField : info.identityField = none) :
    s.tracker.storeIdentity rules h = .ok (s.ledger h.target.id).join ∧
    s.tracker.identityOrPlaceholder rules h =
      .ok (((s.ledger h.target.id).join.map EntityId.raw).getD h.placeholder) ∧
    (s.ledger h.target.id = none → ∀ id, s.tracker.assign rules h id =
      .failed s.tracker (.schema (.noIdentityField info.typeName))) ∧
    (s.ledger h.target.id ≠ none → ∀ id, (s.tracker.assign rules h id).result = .ok ()) := by
  have ledger := Faithful.slots_get run.faithful usable
  have identity : s.tracker.storeIdentity rules h = .ok (s.ledger h.target.id).join := by
    unfold Tracker.storeIdentity
    cases found : s.tracker.slot? h with
    | some slot =>
      rw [← ledger, found]
      rfl
    | none =>
      rw [← ledger, found]
      dsimp only
      rw [Tracker.fieldIdentity, registered]
      dsimp only
      rw [noField]
      rfl
  refine ⟨identity, ?_, fun never id => ?_, fun wrapped id => ?_⟩
  · rw [Tracker.identityOrPlaceholder, identity]
    rfl
  · rw [never, Option.map_eq_none_iff] at ledger
    exact assign_of_none ledger registered noField id
  · cases found : s.tracker.slot? h with
    | some slot =>
      unfold Tracker.assign
      rw [found]
    | none =>
      rw [found] at ledger
      exact absurd ledger.symm wrapped

/-- An identity outlives the wrapper through which the object got its slot. -/
theorem reads_ledger_after_drop :
    let node : Nat → Entity := fun n => ⟨n, 16, "Node", "node", "#0", .identity⟩
    let rules : TrackingRules := { schema := ⟨⟨[("node", { typeName := "node" })]⟩⟩ }
    let w := Handle.wrapper 1 ⟨0, "node", "node$IdentityWrapper"⟩ 0 (.object (node 0))
    ∃ s, Run Plain (start { capacity := 1 }) s ∧ s.Usable (.object (node 0)) ∧
      s.tracker.heap.isLive w.allocation = false ∧
      s.tracker.storeIdentity rules (.object (node 0)) = .ok (some ⟨7, by decide⟩) := by
  intro node rules w
  let made := (start { capacity := 1 }).create node {}
  let wrapped := made.wrap rules (.object (node 0))
  let stored := wrapped.assign rules (.object (node 0)) ⟨7, by decide⟩
  let dropped := stored.withHeap (stored.tracker.heap.release w)
  have plain : Plain rules (.object (node 0)) :=
    ⟨⟨{ typeName := "node" }, rfl, rfl⟩, fun n inner same => by cases same⟩
  have run : Run Plain (start { capacity := 1 }) dropped := by
    refine .tail (.tail (.tail (.tail .refl (.create rfl ?_)) (.wrap ?_ plain)) (.assign ?_ plain))
      .drop
    · intro e usable
      cases usable.1
    · exact ⟨List.mem_cons_self, rfl⟩
    · exact ⟨by decide, by decide⟩
  have collected : dropped.tracker.heap =
      { stored.tracker.heap with held := [.object (node 0)] }.sweep := by
    have released : dropped.tracker.heap =
        Heap.collect { stored.tracker.heap with held := [.object (node 0)] } := rfl
    rw [released, Heap.collect, if_pos (by decide), Heap.collect, if_neg (by decide)]
  have usable : dropped.Usable (.object (node 0)) := by
    refine ⟨by decide, ?_⟩
    rw [collected]
    decide
  have registered : rules.schema.classOf (.object (node 0)) = .ok { typeName := "node" } := rfl
  have answers := reads_ledger run usable registered rfl
  refine ⟨dropped, run, usable, ?_, answers.1⟩
  rw [collected]
  decide

end Session

end ObjectGraph
