import ObjectGraph.Proofs.Tracker.Rostered

/-!
# One slot for an object

The entry of an object lives as long as the allocation that was wrapped.  That is the object itself
if it was wrapped directly, but a stand-in may be gone before the object.  As long as the entry lives,
no operation gives the object another slot, whatever else is wrapped, recorded or dropped.

* `Session.Kept`: the entry of the object lives as long as the object.
* `Session.Effect.tied`: an operation that leaves the entry of the object alive keeps its slot.
-/

namespace ObjectGraph

namespace Session

variable {permits : TrackingRules → Handle → Prop} {s s' : Session} {h : Handle} {e : Entity}
  {slot : Nat}

/-- What the object was wrapped through last lives as long as the object. -/
def Kept (e : Entity) (s : Session) : Prop :=
  ∀ t ∈ s.tracker.roster.entries, t.wrapper.target = e → s.tracker.heap.isLive e.id = true →
    t.isLive s.tracker.heap = true

/-- The object has one slot, which the roster knows as long as the object lives. -/
structure Tied (e : Entity) (s : Session) : Prop where
  one : ∀ m n, s.HasSlot e m → s.HasSlot e n → m = n
  entered : ∀ slot, s.HasSlot e slot → s.tracker.heap.isLive e.id = true →
    s.tracker.roster.slot? s.tracker.heap e.address = some slot

theorem Tied.start (cache : WrapperCache) : (start cache).Tied e where
  one _ _ has := absurd has not_hasSlot_start
  entered _ has := absurd has not_hasSlot_start

/-- The entry by which the roster knows the slot of an object. -/
theorem Tied.exists_entry (tied : s.Tied e) (sound : s.Sound) (has : s.HasSlot e slot)
    (live : s.tracker.heap.isLive e.id = true) :
    ∃ t ∈ s.tracker.roster.entries, t.address = e.address ∧ t.isLive s.tracker.heap = true ∧
      t.slot = slot ∧ t.wrapper.target = e := by
  obtain ⟨t, member, here, alive, same⟩ :=
    (Roster.slot?_eq_some_iff sound.roster).1 (tied.entered slot has live)
  have usable : s.Usable (.object e) := ⟨sound.object_mem has, live⟩
  exact ⟨t, member, here, alive, same, (sound.hasSlot_of_entry member alive usable here).2⟩

/-! ## Operations -/

/-- Slots and entries stay as they are. -/
theorem Tied.quiet (tied : s.Tied e) (rostered : s.Rostered) (quiet : Quiet s s')
    (kept : s'.Kept e) : s'.Tied e where
  one m n hm hn := tied.one m n (quiet.hasSlot_iff.1 hm) (quiet.hasSlot_iff.1 hn)
  entered slot has live := by
    have before := quiet.hasSlot_iff.1 has
    have lived := quiet.lives _ (rostered.object_mem before) live
    obtain ⟨t, member, here, -, same, about⟩ := tied.exists_entry rostered.toSound before lived
    rw [← quiet.roster] at member
    rw [Roster.slot?_eq_some_iff (rostered.quiet quiet).roster]
    exact ⟨t, member, here, kept t member about live, same⟩

section WrapNew

variable {type : WrapperType} {slots : Slots} {cache : WrapperCache}

/-- The slot that is chosen for an object is the one that it has had, if it was ever wrapped. -/
theorem Tied.eq_of_chosen (tied : s.Tied e) (rostered : s.Rostered) (usable : s.Usable h)
    (target : h.target = e) (chosen : s.Chosen h slot slots) {m : Nat} (has : s.HasSlot e m) :
    m = slot := by
  subst target
  have live := (rostered.usable_target usable).2
  have known : s.tracker.roster.slot? s.tracker.heap h.address = some m := tied.entered m has live
  rcases chosen with ⟨chosen, -⟩ | ⟨unknown, -⟩
  · rw [known] at chosen
    exact Option.some.inj chosen
  · rw [known] at unknown
    cases unknown

theorem Tied.wrapNew (tied : s.Tied e) (rostered : s.Rostered) (usable : s.Usable h)
    (none : s.tracker.roster.wrapper? s.tracker.heap h.address = none)
    (chosen : s.Chosen h slot slots) : (s.wrapNew h type slot slots cache).Tied e where
  one m n hm hn := by
    rcases hasSlot_wrapNew.1 hm with mOld | ⟨target, rfl⟩ <;>
      rcases hasSlot_wrapNew.1 hn with nOld | ⟨target', rfl⟩
    · exact tied.one m n mOld nOld
    · exact tied.eq_of_chosen rostered usable target'.symm chosen mOld
    · exact (tied.eq_of_chosen rostered usable target.symm chosen nOld).symm
    · rfl
  entered m has live := by
    rw [Roster.slot?_eq_some_iff (rostered.wrapNew usable none chosen).roster]
    by_cases target : h.target = e
    · obtain rfl : m = slot := by
        rcases hasSlot_wrapNew.1 has with old | ⟨-, chose⟩
        · exact tied.eq_of_chosen rostered usable target chosen old
        · exact chose
      have alive : (s.wrapNew h type m slots cache).tracker.heap.isLive h.allocation = true :=
        live_wrapNew usable.2
      exact ⟨_, Roster.mem_prune_of_live (Roster.mem_put.2 (.inl rfl)) alive,
        congrArg Entity.address target, alive, rfl⟩
    · have before : s.HasSlot e m :=
        (hasSlot_wrapNew.1 has).resolve_right fun new => target new.1.symm
      have lived := rostered.live_of_wrapNew (rostered.object_mem before) live
      obtain ⟨t, entry, here, counts, same, -⟩ := tied.exists_entry rostered.toSound before lived
      have elsewhere : t.address ≠ h.address := fun there => target <|
        rostered.heap.target_eq usable.1 (rostered.object_mem before) usable.2 lived
          (there.symm.trans here)
      have alive : (s.wrapNew h type slot slots cache).tracker.heap.isLive t.allocation = true :=
        live_wrapNew counts
      exact ⟨t, Roster.mem_prune_of_live (Roster.mem_put.2 (.inr ⟨entry, elsewhere⟩)) alive, here,
        alive, same⟩

end WrapNew

/-- **An operation keeps the slot of an object whose entry it leaves alive.** -/
theorem Effect.tied (effect : Effect permits s s') (rostered : s.Rostered) (tied : s.Tied e)
    (kept : s'.Kept e) : s'.Tied e := by
  cases effect with
  | quiet quiet => exact tied.quiet rostered quiet kept
  | shared _ quiet => exact tied.quiet rostered quiet kept
  | written _ _ _ quiet => exact tied.quiet rostered quiet kept
  | stored => exact ⟨tied.one, tied.entered⟩
  | wrapped _ _ usable none chosen => exact tied.wrapNew rostered usable none chosen

end Session

end ObjectGraph
