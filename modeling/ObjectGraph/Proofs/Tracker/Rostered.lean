import ObjectGraph.Proofs.Heap.Written
import ObjectGraph.Proofs.Tracker.Session

/-!
# The roster knows every live wrapper

Whatever is wrapped (objects, stand-ins, wrappers) and under whatever classes, the roster has the
entry of each wrapper for as long as the wrapper lives.  So an object never has two live wrappers,
and a wrapper and the roster never disagree about the slot of an object.

* `Session.Rostered.effect`: what an operation does to wrappers, slots and entries, said once.
* `Session.Run.rostered`: the invariant holds after any run.
* `Session.one_live_wrapper`: one live wrapper for an object, and who gets it.
-/

namespace ObjectGraph

namespace Tracker

/-- How recording an identity ends. -/
inductive Assigns (t : Tracker) (rules : TrackingRules) (h : Handle) (id : EntityId) :
    Outcome Tracker IdentityError Unit → Prop
  | failed {e : IdentityError} : t.slot? h = none → Assigns t rules h id (.failed t e)
  | stored {slot : Nat} {events : List Event} : t.slot? h = some slot →
    Assigns t rules h id ⟨.ok (), (t.setSlot slot h.typeName id).1, events⟩
  | written {info : EntityClass} {field : PropertyField} {v : Value} {heap : Heap}
    {events : List Event} : t.slot? h = none → rules.schema.classOf h = .ok info →
    info.identityField = some field → rules.coercion field.element (.long id.raw) = .ok v →
    field.write t.heap h v = .ok heap → Assigns t rules h id ⟨.ok (), { t with heap }, events⟩

theorem assigns (t : Tracker) (rules : TrackingRules) (h : Handle) (id : EntityId) :
    Assigns t rules h id (t.assign rules h id) := by
  unfold assign
  split
  · next slot found => exact .stored found
  · next absent =>
    unfold assignField
    split
    · exact .failed absent
    · next info registered =>
      split
      · exact .failed absent
      · next field declared =>
        split
        · exact .failed absent
        · next v coerced =>
          split
          · exact .failed absent
          · next heap wrote => exact .written absent registered declared coerced wrote

end Tracker

namespace Session

variable {permits : TrackingRules → Handle → Prop} {s s' : Session} {h w : Handle} {e : Entity}
  {rules : TrackingRules} {slot : Nat}

/-! ## The invariant -/

/-- What the heap and the roster hold was made. -/
structure Sound (s : Session) : Prop where
  heap : s.tracker.heap.Sound s.made
  roster : s.tracker.roster.Sound s.made

/-- What holds between the operations, whatever they are. -/
structure Rostered (s : Session) : Prop extends Sound s where
  /-- A live wrapper has its entry. -/
  entered : ∀ w ∈ s.made, w.isWrapper = true → s.tracker.heap.isLive w.allocation = true →
    ∃ t ∈ s.tracker.roster.entries, t.wrapper = w
  inside : ∀ e slot, s.HasSlot e slot → slot < s.tracker.heap.slots.cells.length
  separate : ∀ d e slot, s.HasSlot d slot → s.HasSlot e slot → d = e

theorem Rostered.start (cache : WrapperCache) : (start cache).Rostered where
  heap := .empty
  roster := .empty
  entered w member := by cases member
  inside _ _ has := absurd has not_hasSlot_start
  separate _ _ _ has := absurd has not_hasSlot_start

/-- The object of a wrapper that was made was made. -/
theorem Sound.object_mem (sound : s.Sound) (has : s.HasSlot e slot) :
    .object e ∈ s.made := by
  obtain ⟨n, type, inner, member, rfl⟩ := has
  have object := sound.heap.target_mem member
  exact object

/-- The object itself may be held as long as any handle to it lives. -/
theorem Sound.usable_target (sound : s.Sound) (usable : s.Usable h) :
    s.Usable (.object h.target) :=
  ⟨sound.heap.target_mem usable.1, sound.heap.live_target usable.1 usable.2⟩

/-- An entry whose allocation lives is about the object at its address. -/
theorem Sound.hasSlot_of_entry (sound : s.Sound) {t : RosterEntry}
    (member : t ∈ s.tracker.roster.entries) (live : t.isLive s.tracker.heap = true)
    (usable : s.Usable h) (here : t.address = h.address) :
    s.HasSlot h.target t.slot ∧ t.wrapper.target = h.target := by
  obtain ⟨n, type, inner, form, known, allocation, address⟩ := sound.roster.wrapped t member
  rw [form] at known
  have inner_mem : inner ∈ s.made := sound.heap.inner _ known _ rfl
  have inner_live : s.tracker.heap.isLive inner.allocation = true := by
    rw [allocation]
    exact live
  have same : inner.target = h.target :=
    sound.heap.target_eq inner_mem usable.1 inner_live usable.2 (address.trans here)
  refine ⟨⟨n, type, inner, known, same⟩, ?_⟩
  rw [form]
  exact same

/-- As long as a wrapper lives, so does what it wraps, and its entry counts. -/
theorem Sound.entry_live (sound : s.Sound) {t : RosterEntry}
    (member : t ∈ s.tracker.roster.entries)
    (live : s.tracker.heap.isLive t.wrapper.allocation = true) : t.isLive s.tracker.heap = true := by
  obtain ⟨n, type, inner, form, known, allocation, -⟩ := sound.roster.wrapped t member
  rw [form] at known live
  rw [RosterEntry.isLive, ← allocation]
  exact sound.heap.live_inner known live rfl

theorem Sound.entry_address (sound : s.Sound) {t : RosterEntry}
    (member : t ∈ s.tracker.roster.entries) : t.address = t.wrapper.address := by
  obtain ⟨n, type, inner, form, -, -, address⟩ := sound.roster.wrapped t member
  rw [form, ← address]
  rfl

/-- The roster finds the live wrapper of an object, through whichever handle it is asked. -/
theorem Rostered.wrapper?_eq (rostered : s.Rostered) (usable : s.Usable w)
    (wrapper : w.isWrapper = true) (same : w.address = h.address) :
    s.tracker.roster.wrapper? s.tracker.heap h.address = some w := by
  obtain ⟨t, member, rfl⟩ := rostered.entered w usable.1 wrapper usable.2
  rw [Roster.wrapper?_eq_some_iff rostered.roster]
  exact ⟨t, member, (rostered.entry_address member).trans same, rostered.entry_live member usable.2,
    usable.2, rfl⟩

/-- The slot of a live wrapper is the one that the roster has for the object. -/
theorem Rostered.slot?_of_wrapper (rostered : s.Rostered) {n : Nat} {type : WrapperType}
    {inner : Handle} (usable : s.Usable (.wrapper n type slot inner)) :
    s.tracker.roster.slot? s.tracker.heap inner.address = some slot := by
  obtain ⟨t, member, form⟩ := rostered.entered _ usable.1 rfl usable.2
  obtain ⟨n', type', inner', form', -, -, address⟩ := rostered.roster.wrapped t member
  have live : t.isLive s.tracker.heap = true := by
    apply rostered.entry_live member
    rw [form]
    exact usable.2
  rw [form] at form'
  cases form'
  exact (Roster.slot?_eq_some_iff rostered.roster).2 ⟨t, member, address.symm, live, rfl⟩

/-- The slot that the roster has for a live object belongs to the object. -/
theorem Sound.hasSlot_of_roster (sound : s.Sound) (usable : s.Usable h)
    (known : s.tracker.roster.slot? s.tracker.heap h.address = some slot) :
    s.HasSlot h.target slot := by
  obtain ⟨t, member, here, live, rfl⟩ := (Roster.slot?_eq_some_iff sound.roster).1 known
  exact (sound.hasSlot_of_entry member live usable here).1

/-- The slot that a live handle leads to belongs to its object. -/
theorem Sound.hasSlot_of_slot? (sound : s.Sound) (usable : s.Usable h)
    (found : s.tracker.slot? h = some slot) : s.HasSlot h.target slot := by
  cases h with
  | object e => exact sound.hasSlot_of_roster usable found
  | standIn n inner => exact sound.hasSlot_of_roster usable found
  | wrapper n type own inner =>
    cases found
    exact ⟨n, type, inner, usable.1, rfl⟩

/-! ## What an operation does -/

/-- Nothing was wrapped: no new wrapper, no other slots or entries, and nothing that lives again. -/
structure Quiet (s s' : Session) : Prop where
  heap : s'.tracker.heap.Sound s'.made
  known : s.made ⊆ s'.made
  wrappers : ∀ w ∈ s'.made, w.isWrapper = true → w ∈ s.made
  roster : s'.tracker.roster = s.tracker.roster
  slots : s'.tracker.heap.slots = s.tracker.heap.slots
  lives : ∀ h ∈ s.made, s'.tracker.heap.isLive h.allocation = true →
    s.tracker.heap.isLive h.allocation = true

/-- The slot for a new wrapper: the one that the roster has for the object, or else a new one. -/
def Chosen (s : Session) (h : Handle) (slot : Nat) (slots : Slots) : Prop :=
  s.tracker.roster.slot? s.tracker.heap h.address = some slot ∧ slots = s.tracker.heap.slots ∨
    s.tracker.roster.slot? s.tracker.heap h.address = none ∧
      (slot, slots) = s.tracker.heap.slots.fresh

/-- The object that a handle reaches enters with a new wrapper of the handle. -/
def wrapNew (s : Session) (h : Handle) (type : WrapperType) (slot : Nat) (slots : Slots)
    (cache : WrapperCache) : Session :=
  let w := Handle.wrapper s.tracker.heap.next type slot h
  let heap := { s.tracker.heap with slots }.allocate w {}
  let roster := ((s.tracker.roster.put ⟨h.address, h.allocation, slot, w⟩).prune heap).1
  ⟨⟨heap, cache, roster⟩, w :: s.made, s.ledger.enter h.target.id⟩

/-- What an operation does to wrappers, slots, entries and the ledger. -/
inductive Effect (permits : TrackingRules → Handle → Prop) (s : Session) : Session → Prop
  | quiet {s' : Session} : Quiet s s' → s'.ledger = s.ledger → Effect permits s s'
  /-- A wrapper was given back that was there before. -/
  | shared {s' : Session} {e : Entity} {slot : Nat} : s.HasSlot e slot → Quiet s s' →
    s'.ledger = s.ledger.enter e.id → Effect permits s s'
  /-- The identity went to the identity field of an object. -/
  | written {s' : Session} {rules : TrackingRules} {h : Handle} {info : EntityClass}
    {field : PropertyField} : permits rules h → rules.schema.classOf h = .ok info →
    info.identityField = some field → Quiet s s' → Effect permits s s'
  | stored {e : Entity} {slot : Nat} {id : EntityId} : s.HasSlot e slot →
    Effect permits s (s.setSlot slot e id)
  | wrapped {rules : TrackingRules} {h : Handle} {type : WrapperType} {slot : Nat} {slots : Slots}
    {cache : WrapperCache} : permits rules h → h.isWrapper = false → s.Usable h →
    s.tracker.roster.wrapper? s.tracker.heap h.address = none → s.Chosen h slot slots →
    Effect permits s (s.wrapNew h type slot slots cache)

theorem quiet_withHeap {heap : Heap} (sound : heap.Sound s.made)
    (slots : heap.slots = s.tracker.heap.slots)
    (subset : ∀ a ∈ heap.live, ∃ b ∈ s.tracker.heap.live, a.handle = b.handle) :
    Quiet s (s.withHeap heap) :=
  ⟨sound, fun _ member => member, fun _ member _ => member, rfl, slots,
    fun _ _ live => Heap.isLive_of_subset subset live⟩

theorem Rostered.quiet_setFields (rostered : s.Rostered) (e : Entity) (fields : Fields) :
    Quiet s (s.withHeap (s.tracker.heap.setFields e fields)) := by
  refine quiet_withHeap (rostered.heap.setFields e fields) Heap.slots_collect fun a found => ?_
  obtain ⟨b, old, rfl⟩ := List.mem_map.1 (Heap.live_collect_sublist.subset found)
  exact ⟨b, old, b.handle_withFields⟩

/-- A new object or a new stand-in. -/
theorem Rostered.quiet_allocate (rostered : s.Rostered) {handle : Handle} {fields : Fields}
    (bare : handle.isWrapper = false) (new : handle.allocation = s.tracker.heap.next)
    (sound : (s.tracker.heap.allocate handle fields).Sound (handle :: s.made)) :
    Quiet s { s.withHeap (s.tracker.heap.allocate handle fields) with made := handle :: s.made } := by
  refine ⟨sound, List.subset_cons_self _ _, fun w member wrapper => ?_, rfl, rfl, fun h member live => ?_⟩
  · rcases List.mem_cons.1 member with rfl | old
    · rw [bare] at wrapper
      cases wrapper
    · exact old
  · have below := rostered.heap.numbered h member
    rcases Heap.isLive_allocate.1 live with same | before
    · omega
    · exact before

/-- A handle is given back that was there before. -/
theorem Rostered.quiet_share (rostered : s.Rostered) (known : w ∈ s.made) (ledger : Ledger) :
    Quiet s ⟨{ s.tracker with heap := s.tracker.heap.retain w }, w :: s.made, ledger⟩ := by
  refine ⟨(rostered.heap.retain w).note known, List.subset_cons_self _ _, fun v member _ => ?_, rfl,
    rfl, fun _ _ live => live⟩
  rcases List.mem_cons.1 member with rfl | old
  · exact known
  · exact old

theorem Rostered.effect_wrap (rostered : s.Rostered) (usable : s.Usable h)
    (permitted : permits rules h) : Effect permits s (s.wrap rules h) := by
  unfold Session.wrap
  dsimp only
  generalize ended : s.tracker.wrap rules h = o
  have ways := s.tracker.wraps rules h
  rw [ended] at ways
  cases ways with
  | unknown | refused =>
    exact .quiet ⟨rostered.heap, fun _ member => member, fun _ member _ => member, rfl, rfl,
      fun _ _ live => live⟩ rfl
  | own carries =>
    cases h with
    | object e => exact .quiet (rostered.quiet_share usable.1 _) rfl
    | standIn n inner => exact .quiet (rostered.quiet_share usable.1 _) rfl
    | wrapper n type slot inner =>
      exact .shared ⟨n, type, inner, usable.1, rfl⟩ (rostered.quiet_share usable.1 _) rfl
  | found bare _ _ known =>
    obtain ⟨t, member, here, live, -, rfl⟩ := (Roster.wrapper?_eq_some_iff rostered.roster).1 known
    obtain ⟨n, type, inner, form, made, -⟩ := rostered.roster.wrapped t member
    obtain ⟨has, -⟩ := rostered.hasSlot_of_entry member live usable here
    refine .shared has (rostered.quiet_share made _) ?_
    rw [form]
    rfl
  | @new type cache info events bare _ _ none =>
    obtain ⟨slot, slots, chosen, first, state⟩ :=
      ({ s.tracker with cache } : Tracker).newWrapper_eq h type
    dsimp only
    rw [first, state, Handle.isWrapper, if_pos rfl]
    exact .wrapped permitted bare usable none chosen

theorem Rostered.effect_assign (rostered : s.Rostered) (usable : s.Usable h) (permitted : permits rules h)
    (id : EntityId) : Effect permits s (s.assign rules h id) := by
  unfold Session.assign
  dsimp only
  generalize ended : s.tracker.assign rules h id = o
  have ways := s.tracker.assigns rules h id
  rw [ended] at ways
  cases ways with
  | failed =>
    exact .quiet ⟨rostered.heap, fun _ member => member, fun _ member _ => member, rfl, rfl,
      fun _ _ live => live⟩ rfl
  | stored found => exact .stored (rostered.hasSlot_of_slot? usable found)
  | @written info field v heap events _ registered declared _ wrote =>
    obtain ⟨-, fields, -, -, -, rfl⟩ := FieldAccess.write_eq_ok_iff.1 wrote
    have quiet := rostered.quiet_setFields h.target fields
    exact .written permitted registered declared
      ⟨quiet.heap, quiet.known, quiet.wrappers, quiet.roster, quiet.slots, quiet.lives⟩

/-- **Every operation has one of these effects.** -/
theorem Rostered.effect (rostered : s.Rostered) (step : Step permits s s') : Effect permits s s' := by
  cases step with
  | @create describe fields numbered free =>
    refine .quiet (rostered.quiet_allocate rfl numbered (rostered.heap.allocate fields numbered ?_ ?_)) rfl
    · intro i stands
      cases stands
    · intro e form d object alive
      cases form
      exact free d ⟨object, alive⟩
  | @standIn h usable =>
    refine .quiet (rostered.quiet_allocate rfl rfl (rostered.heap.allocate {} rfl ?_ ?_)) rfl
    · intro i stands
      cases stands
      exact usable
    · intro e form
      cases form
  | wrap usable permitted => exact rostered.effect_wrap usable permitted
  | assign usable permitted => exact rostered.effect_assign usable permitted _
  | setSlot known => exact .stored ⟨_, _, _, known, rfl⟩
  | @setFields e fields => exact .quiet (rostered.quiet_setFields e fields) rfl
  | useCache =>
    exact .quiet ⟨rostered.heap, fun _ member => member, fun _ member _ => member, rfl, rfl,
      fun _ _ live => live⟩ rfl
  | @hold h usable =>
    exact .quiet (quiet_withHeap (rostered.heap.retain h) rfl fun a found => ⟨a, found, rfl⟩) rfl
  | @drop h =>
    refine .quiet (quiet_withHeap (rostered.heap.release h) Heap.slots_collect fun a found => ?_)
      rfl
    exact ⟨a, Heap.live_release_sublist.subset found, rfl⟩

/-! ## The invariant is kept -/

theorem Quiet.hasSlot_iff (quiet : Quiet s s') : s'.HasSlot e slot ↔ s.HasSlot e slot := by
  constructor
  · intro has
    rcases has with ⟨n, type, inner, member, target⟩
    exact ⟨n, type, inner, quiet.wrappers _ member rfl, target⟩
  · intro has
    rcases has with ⟨n, type, inner, member, target⟩
    exact ⟨n, type, inner, quiet.known member, target⟩

theorem Rostered.quiet (rostered : s.Rostered) (quiet : Quiet s s') : s'.Rostered where
  heap := quiet.heap
  roster := by
    rw [quiet.roster]
    exact rostered.roster.mono quiet.known
  entered w member wrapper live := by
    have old := quiet.wrappers w member wrapper
    rw [quiet.roster]
    exact rostered.entered w old wrapper (quiet.lives w old live)
  inside e slot has := by
    rw [quiet.slots]
    exact rostered.inside e slot (quiet.hasSlot_iff.1 has)
  separate d e slot hd he := rostered.separate d e slot (quiet.hasSlot_iff.1 hd) (quiet.hasSlot_iff.1 he)

theorem Rostered.setSlot (rostered : s.Rostered) (e : Entity) (slot : Nat) (id : EntityId) :
    (s.setSlot slot e id).Rostered where
  heap := rostered.heap.withSlots _
  roster := rostered.roster
  entered := rostered.entered
  inside d m has := by
    have before : m < s.tracker.heap.slots.cells.length := rostered.inside d m has
    have cells : (s.setSlot slot e id).tracker.heap.slots = s.tracker.heap.slots.set slot id := rfl
    rw [cells, Slots.set, List.length_set]
    exact before
  separate := rostered.separate

section WrapNew

variable {type : WrapperType} {slots : Slots} {cache : WrapperCache}

theorem hasSlot_wrapNew {m : Nat} :
    (s.wrapNew h type slot slots cache).HasSlot e m ↔ s.HasSlot e m ∨ e = h.target ∧ m = slot := by
  constructor
  · intro has
    rcases has with ⟨n, type', inner, member, rfl⟩
    rcases List.mem_cons.1 member with new | old
    · cases new
      exact .inr ⟨rfl, rfl⟩
    · exact .inl ⟨n, type', inner, old, rfl⟩
  · intro known_or_new
    rcases known_or_new with ⟨n, type', inner, member, rfl⟩ | ⟨rfl, rfl⟩
    · exact ⟨n, type', inner, List.mem_cons_of_mem _ member, rfl⟩
    · exact ⟨_, _, _, List.mem_cons_self, rfl⟩

/-- Whatever slot is chosen, all slots hold what they held. -/
theorem Chosen.get (chosen : s.Chosen h slot slots) (m : Nat) :
    slots.get m = s.tracker.heap.slots.get m := by
  rcases chosen with ⟨-, rfl⟩ | ⟨-, fresh⟩
  · rfl
  · cases fresh
    exact Slots.get_fresh s.tracker.heap.slots m

theorem Chosen.length_le (chosen : s.Chosen h slot slots) :
    s.tracker.heap.slots.cells.length ≤ slots.cells.length := by
  rcases chosen with ⟨-, rfl⟩ | ⟨-, fresh⟩
  · exact Nat.le_refl _
  · cases fresh
    simp

theorem Rostered.inside_of_chosen (rostered : s.Rostered) (usable : s.Usable h)
    (chosen : s.Chosen h slot slots) : slot < slots.cells.length := by
  rcases chosen with ⟨known, rfl⟩ | ⟨-, fresh⟩
  · exact rostered.inside _ slot (rostered.hasSlot_of_roster usable known)
  · cases fresh
    simp

/-- No other object has the slot that is chosen for an object. -/
theorem Rostered.target_of_chosen (rostered : s.Rostered) (usable : s.Usable h)
    (chosen : s.Chosen h slot slots) (has : s.HasSlot e slot) : e = h.target := by
  rcases chosen with ⟨known, -⟩ | ⟨-, fresh⟩
  · exact rostered.separate _ _ slot has (rostered.hasSlot_of_roster usable known)
  · cases fresh
    exact absurd (rostered.inside e _ has) (Nat.lt_irrefl _)

/-- Nothing that was made before comes to life by a new wrapper. -/
theorem Rostered.live_of_wrapNew (rostered : s.Rostered) (known : w ∈ s.made)
    (live : (s.wrapNew h type slot slots cache).tracker.heap.isLive w.allocation = true) :
    s.tracker.heap.isLive w.allocation = true := by
  have below := rostered.heap.numbered w known
  rcases Heap.isLive_allocate.1 live with same | before
  · have new : s.tracker.heap.next = w.allocation := same
    omega
  · exact before

/-- What lives goes on living when a wrapper is made. -/
theorem live_wrapNew {n : Nat} (live : s.tracker.heap.isLive n = true) :
    (s.wrapNew h type slot slots cache).tracker.heap.isLive n = true :=
  Heap.isLive_allocate.2 (.inr live)

theorem Rostered.wrapNew (rostered : s.Rostered) (usable : s.Usable h)
    (none : s.tracker.roster.wrapper? s.tracker.heap h.address = none)
    (chosen : s.Chosen h slot slots) : (s.wrapNew h type slot slots cache).Rostered where
  heap := by
    refine (rostered.heap.withSlots slots).allocate {} rfl (fun i stands => ?_) fun d clash => ?_
    · cases stands
      exact usable
    · cases clash
  roster :=
    ((rostered.roster.mono (List.subset_cons_self _ s.made)).put List.mem_cons_self).prune _
  entered w member wrapper live := by
    rcases List.mem_cons.1 member with rfl | old
    · have alive : (s.wrapNew h type slot slots cache).tracker.heap.isLive h.allocation = true :=
        live_wrapNew usable.2
      exact ⟨_, Roster.mem_prune_of_live (Roster.mem_put.2 (.inl rfl)) alive, rfl⟩
    · have lived : s.Usable w := ⟨old, rostered.live_of_wrapNew old live⟩
      obtain ⟨t, entry, rfl⟩ := rostered.entered w old wrapper lived.2
      have elsewhere : t.address ≠ h.address := by
        intro here
        rw [rostered.entry_address entry] at here
        rw [rostered.wrapper?_eq lived wrapper here] at none
        cases none
      have alive : (s.wrapNew h type slot slots cache).tracker.heap.isLive t.allocation = true :=
        live_wrapNew (rostered.entry_live entry lived.2)
      exact ⟨t, Roster.mem_prune_of_live (Roster.mem_put.2 (.inr ⟨entry, elsewhere⟩)) alive, rfl⟩
  inside d m has := by
    rcases hasSlot_wrapNew.1 has with old | ⟨-, rfl⟩
    · exact Nat.lt_of_lt_of_le (rostered.inside d m old) chosen.length_le
    · exact rostered.inside_of_chosen usable chosen
  separate d e m hd he := by
    rcases hasSlot_wrapNew.1 hd with dOld | ⟨rfl, rfl⟩ <;>
      rcases hasSlot_wrapNew.1 he with eOld | ⟨rfl, same⟩
    · exact rostered.separate d e m dOld eOld
    · exact rostered.target_of_chosen usable chosen (same ▸ dOld)
    · exact (rostered.target_of_chosen usable chosen eOld).symm
    · rfl

end WrapNew

theorem Effect.rostered (effect : Effect permits s s') (rostered : s.Rostered) : s'.Rostered := by
  cases effect with
  | quiet quiet => exact rostered.quiet quiet
  | shared _ quiet => exact rostered.quiet quiet
  | written _ _ _ quiet => exact rostered.quiet quiet
  | stored has => exact rostered.setSlot _ _ _
  | wrapped _ _ usable none chosen => exact rostered.wrapNew usable none chosen

/-- **The roster knows every live wrapper, after any operations at all.** -/
theorem Run.rostered {cache : WrapperCache} (run : Run permits (Session.start cache) s) :
    s.Rostered := by
  induction run with
  | refl => exact .start cache
  | tail _ step ih => exact (ih.effect step).rostered ih

/-! ## One live wrapper for an object -/

/-- **An object has at most one live wrapper, and wrapping gives it back.**  After any run: live
wrappers of one object are the same allocation, with the slot that the roster has for the object;
a wrapper, and an object whose class has an identity field, is given back as it is; and an object
with a live wrapper gets that wrapper, through whatever it is wrapped.  In all these cases nothing
changes but that the handle is held once more. -/
theorem one_live_wrapper {cache : WrapperCache} (run : Run permits (start cache) s) :
    (∀ v w, s.Usable v → s.Usable w → v.isWrapper = true → w.isWrapper = true →
      v.target.id = w.target.id → v.allocation = w.allocation ∧ v = w) ∧
    (∀ n type slot inner, s.Usable (.wrapper n type slot inner) →
      s.tracker.roster.slot? s.tracker.heap inner.address = some slot) ∧
    (∀ rules w, s.Usable w → w.isWrapper = true → s.tracker.wrap rules w =
      .pure { s.tracker with heap := s.tracker.heap.retain w } w) ∧
    (∀ rules h info, s.Usable h → h.isWrapper = false → rules.schema.classOf h = .ok info →
      info.holdsIdentity = true → s.tracker.wrap rules h =
        .pure { s.tracker with heap := s.tracker.heap.retain h } h) ∧
    (∀ rules h w info, s.Usable h → s.Usable w → w.isWrapper = true → w.target.id = h.target.id →
      rules.schema.classOf h = .ok info → info.holdsIdentity = false → s.tracker.wrap rules h =
        .pure { s.tracker with heap := s.tracker.heap.retain w } w) := by
  have rostered := run.rostered
  have sameTarget {v w : Handle} (hv : s.Usable v) (hw : s.Usable w)
      (same : v.target.id = w.target.id) : v.target = w.target :=
    rostered.heap.object_eq (rostered.heap.target_mem hv.1) (rostered.heap.target_mem hw.1) same
  have found {v w : Handle} (hv : s.Usable v) (hw : s.Usable w) (wrapper : w.isWrapper = true)
      (same : w.target.id = v.target.id) :
      s.tracker.roster.wrapper? s.tracker.heap v.address = some w :=
    rostered.wrapper?_eq hw wrapper (congrArg Entity.address (sameTarget hw hv same))
  have given {rules : TrackingRules} {w : Handle} (wrapper : w.isWrapper = true) :
      s.tracker.wrap rules w = s.tracker.share w := by
    rw [Tracker.wrap, if_pos wrapper]
  have one {v w : Handle} (hv : s.Usable v) (hw : s.Usable w) (vWrapper : v.isWrapper = true)
      (wWrapper : w.isWrapper = true) (same : v.target.id = w.target.id) : v = w := by
    have mine := found hv hv vWrapper rfl
    rw [found hv hw wWrapper same.symm] at mine
    exact (Option.some.inj mine).symm
  refine ⟨fun v w hv hw vWrapper wWrapper same => ?_, fun n type slot inner usable => ?_,
    fun rules w usable wrapper => given wrapper, fun rules h info usable bare registered holds => ?_,
    fun rules h w info hUsable wUsable wrapper same registered plain => ?_⟩
  · have equal := one hv hw vWrapper wWrapper same
    exact ⟨congrArg Handle.allocation equal, equal⟩
  · exact rostered.slot?_of_wrapper usable
  · simp only [Tracker.wrap, bare, registered, holds, if_true, Bool.false_eq_true, if_false]
    rfl
  · cases bare : h.isWrapper with
    | true =>
      obtain rfl := one hUsable wUsable bare wrapper same.symm
      exact given wrapper
    | false =>
      simp only [Tracker.wrap, bare, registered, plain, found hUsable wUsable wrapper same,
        Bool.false_eq_true, if_false]
      rfl

/-- An object that was wrapped through a stand-in gets the same wrapper when it is wrapped itself. -/
theorem one_live_wrapper_standIn :
    let node : Nat → Entity := fun n => ⟨n, 16, "Node", "node", "#0", .identity⟩
    let rules : TrackingRules := { schema := ⟨⟨[("node", { typeName := "node" })]⟩⟩ }
    let w := Handle.wrapper 2 ⟨0, "node", "node$IdentityWrapper"⟩ 0 (.standIn 1 (.object (node 0)))
    ∃ s, Run (fun _ _ => True) (start { capacity := 1 }) s ∧ s.Usable w ∧
      s.Usable (.object (node 0)) ∧ s.tracker.roster.slot? s.tracker.heap 16 = some 0 ∧
      s.tracker.wrap rules w = .pure { s.tracker with heap := s.tracker.heap.retain w } w ∧
      s.tracker.wrap rules (.object (node 0)) =
        .pure { s.tracker with heap := s.tracker.heap.retain w } w := by
  intro node rules w
  let made := (start { capacity := 1 }).create node {}
  let standing := made.standIn (.object (node 0))
  let wrapped := standing.wrap rules (.standIn 1 (.object (node 0)))
  have run : Run (fun _ _ => True) (start { capacity := 1 }) wrapped := by
    refine .tail (.tail (.tail .refl (.create rfl ?_)) (.standIn ?_)) (.wrap ?_ trivial)
    · intro e usable
      cases usable.1
    · exact ⟨List.mem_cons_self, rfl⟩
    · exact ⟨List.mem_cons_self, rfl⟩
  have usable : wrapped.Usable w := ⟨List.mem_cons_self, rfl⟩
  have object : wrapped.Usable (.object (node 0)) := ⟨by decide, rfl⟩
  obtain ⟨-, slots, wrappers, -, others⟩ := one_live_wrapper run
  exact ⟨wrapped, run, usable, object, slots _ _ _ _ usable, wrappers rules w usable rfl,
    others rules _ w { typeName := "node" } object usable rfl rfl rfl rfl⟩

end Session

end ObjectGraph
