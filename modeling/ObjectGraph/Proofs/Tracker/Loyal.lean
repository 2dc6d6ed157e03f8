import ObjectGraph.Proofs.Tracker.Tied

/-!
# Identities are kept while what was wrapped lives

For as long as what an object was wrapped through last lives, its slot holds what the ledger says, and
the tracker answers that.  The ledger does not know through which handles objects were wrapped.

* `Session.Effect.loyal`: what the slot holds is kept with the slot.
* `Session.reads_ledger_while_kept`: the answers on an object whose entry has always been alive.
* `Session.standIn_forgets`: dropping a stand-in that was wrapped loses the identity of an object.
-/

namespace ObjectGraph

namespace Session

variable {permits : TrackingRules → Handle → Prop} {s s' : Session} {h : Handle} {e : Entity}
  {rules : TrackingRules} {slot : Nat}

/-! ## The invariant -/

/-- The type of the object is registered, without an identity field. -/
def Unfielded (rules : TrackingRules) (h : Handle) : Prop :=
  ∃ info, rules.schema.classOf h = .ok info ∧ info.identityField = none

/-- The object has one slot, which the roster knows, and which holds what the ledger holds. -/
structure Loyal (e : Entity) (s : Session) : Prop extends Tied e s where
  recorded : ∀ slot, s.HasSlot e slot → s.ledger e.id = some (s.tracker.heap.slots.get slot)
  unwrapped : ∀ n, (∀ d slot, s.HasSlot d slot → d.id ≠ n) → s.ledger n = none

theorem Loyal.start (cache : WrapperCache) : (start cache).Loyal e where
  toTied := .start cache
  recorded _ has := absurd has not_hasSlot_start
  unwrapped _ _ := rfl

/-- Numbers tell the objects with slots apart. -/
theorem Sound.eq_of_id (sound : s.Sound) {d : Entity} {m : Nat} (hd : s.HasSlot d m)
    (object : .object e ∈ s.made) (same : d.id = e.id) : d = e :=
  sound.heap.object_eq (sound.object_mem hd) object same

/-! ## Operations -/

/-- Slots and entries stay as they are, and the ledger holds what it held. -/
theorem Loyal.quiet (loyal : s.Loyal e) (rostered : s.Rostered) (quiet : Quiet s s')
    (recorded : ∀ id?, s.ledger e.id = some id? → s'.ledger e.id = some id?)
    (unwrapped : ∀ n, (∀ d slot, s.HasSlot d slot → d.id ≠ n) → s.ledger n = none →
      s'.ledger n = none) (kept : s'.Kept e) : s'.Loyal e where
  toTied := loyal.toTied.quiet rostered quiet kept
  recorded slot has := by
    rw [quiet.slots]
    exact recorded _ (loyal.recorded slot (quiet.hasSlot_iff.1 has))
  unwrapped n none := by
    have before : ∀ d slot, s.HasSlot d slot → d.id ≠ n :=
      fun d slot has => none d slot (quiet.hasSlot_iff.2 has)
    exact unwrapped n before (loyal.unwrapped n before)

/-- An identity is put into the slot of an object. -/
theorem Loyal.setSlot (loyal : s.Loyal e) (rostered : s.Rostered) {d : Entity}
    (has : s.HasSlot d slot) (id : EntityId) : (s.setSlot slot d id).Loyal e where
  one := loyal.one
  entered := loyal.entered
  recorded m he := by
    have cells : (s.setSlot slot d id).tracker.heap.slots = s.tracker.heap.slots.set slot id := rfl
    rw [cells, Slots.get_set _ _ _ _ (rostered.inside d slot has)]
    show s.ledger.record d.id id e.id = _
    unfold Ledger.record
    by_cases same : d = e
    · subst same
      rw [if_pos rfl, if_pos (loyal.one m slot he has)]
    · have numbers : e.id ≠ d.id :=
        fun clash => same (rostered.eq_of_id has (rostered.object_mem he) clash.symm)
      have slots : m ≠ slot := fun clash => same (rostered.separate d e slot has (clash ▸ he))
      rw [if_neg numbers, if_neg slots]
      exact loyal.recorded m he
  unwrapped n none := by
    have other : n ≠ d.id := fun same => none d slot has same.symm
    show s.ledger.record d.id id n = _
    rw [Ledger.record, if_neg other]
    exact loyal.unwrapped n none

section WrapNew

variable {type : WrapperType} {slots : Slots} {cache : WrapperCache}

/-- A new wrapper has a slot that holds what the ledger has for the object. -/
theorem Loyal.recorded_chosen (loyal : s.Loyal e) (rostered : s.Rostered) (usable : s.Usable h)
    (target : h.target = e) (chosen : s.Chosen h slot slots) :
    s.ledger.enter e.id e.id = some (slots.get slot) := by
  by_cases before : ∃ m, s.HasSlot e m
  · obtain ⟨m, has⟩ := before
    have same := loyal.eq_of_chosen rostered usable target chosen has
    rw [chosen.get, ← same]
    exact Ledger.enter_of_some (loyal.recorded m has)
  · have never : ∀ d m, s.HasSlot d m → d.id ≠ e.id := by
      intro d m has clash
      have object := (rostered.usable_target usable).1
      rw [target] at object
      exact before ⟨m, rostered.eq_of_id has object clash ▸ has⟩
    rcases chosen with ⟨known, -⟩ | ⟨-, fresh⟩
    · exact absurd ⟨slot, target ▸ rostered.hasSlot_of_roster usable known⟩ before
    · cases fresh
      rw [Ledger.enter, if_pos rfl, loyal.unwrapped e.id never, Option.join_none]
      simp [Slots.get]

theorem Loyal.wrapNew (loyal : s.Loyal e) (rostered : s.Rostered) (usable : s.Usable h)
    (none : s.tracker.roster.wrapper? s.tracker.heap h.address = none)
    (chosen : s.Chosen h slot slots) : (s.wrapNew h type slot slots cache).Loyal e where
  toTied := loyal.toTied.wrapNew rostered usable none chosen
  recorded m has := by
    have slotsAfter : (s.wrapNew h type slot slots cache).tracker.heap.slots = slots := rfl
    have ledgerAfter : (s.wrapNew h type slot slots cache).ledger = s.ledger.enter h.target.id := rfl
    rw [slotsAfter, ledgerAfter]
    rcases hasSlot_wrapNew.1 has with old | ⟨rfl, rfl⟩
    · rw [chosen.get]
      exact Ledger.enter_of_some (loyal.recorded m old)
    · exact loyal.recorded_chosen rostered usable rfl chosen
  unwrapped n never := by
    have other : n ≠ h.target.id := fun clash =>
      never h.target slot (hasSlot_wrapNew.2 (.inr ⟨rfl, rfl⟩)) clash.symm
    show s.ledger.enter h.target.id n = _
    rw [Ledger.enter, if_neg other]
    exact loyal.unwrapped n fun d m has => never d m (hasSlot_wrapNew.2 (.inl has))

end WrapNew

/-- **An operation keeps what the slot of an object holds, if it leaves its entry alive.** -/
theorem Effect.loyal (effect : Effect permits s s')
    (unfielded : ∀ rules h, permits rules h → Unfielded rules h) (rostered : s.Rostered)
    (loyal : s.Loyal e) (kept : s'.Kept e) : s'.Loyal e := by
  cases effect with
  | quiet quiet ledger =>
    refine loyal.quiet rostered quiet (fun _ known => ?_) (fun _ _ unknown => ?_) kept
    · rw [ledger, known]
    · rw [ledger, unknown]
  | @shared _ d slot has quiet ledger =>
    refine loyal.quiet rostered quiet (fun _ known => ?_) (fun n never unknown => ?_) kept
    · rw [ledger, Ledger.enter_of_some known]
    · have other : n ≠ d.id := fun clash => never d slot has clash.symm
      rw [ledger, Ledger.enter, if_neg other, unknown]
  | written permitted registered declared =>
    obtain ⟨info, registered', noField⟩ := unfielded _ _ permitted
    rw [registered] at registered'
    cases registered'
    rw [noField] at declared
    cases declared
  | stored has => exact loyal.setSlot rostered has _
  | wrapped _ _ usable none chosen => exact loyal.wrapNew rostered usable none chosen

/-- Any number of operations after each of which the entry of the object is alive, on types without
identity fields. -/
abbrev KeepingRun (e : Entity) : Session → Session → Prop :=
  Relation.ReflTransGen fun s s' => Step Unfielded s s' ∧ s'.Kept e

theorem KeepingRun.loyal {cache : WrapperCache} (run : KeepingRun e (Session.start cache) s) :
    s.Rostered ∧ s.Loyal e := by
  induction run with
  | refl => exact ⟨.start cache, .start cache⟩
  | tail _ step ih =>
    obtain ⟨step, kept⟩ := step
    obtain ⟨rostered, loyal⟩ := ih
    have effect := rostered.effect step
    exact ⟨effect.rostered rostered, effect.loyal (fun _ _ unfielded => unfielded) rostered loyal kept⟩

/-! ## Answers -/

/-- What a live handle leads the tracker to is what the ledger holds. -/
theorem Loyal.slots_get (loyal : s.Loyal h.target) (sound : s.Sound) (usable : s.Usable h) :
    (s.tracker.slot? h).map s.tracker.heap.slots.get = s.ledger h.target.id := by
  have object := sound.usable_target usable
  cases found : s.tracker.slot? h with
  | some slot => exact (loyal.recorded slot (sound.hasSlot_of_slot? usable found)).symm
  | none =>
    refine (loyal.unwrapped _ fun d slot has same => ?_).symm
    have target : d = h.target := sound.eq_of_id has object.1 same
    have known := loyal.entered slot (target ▸ has) object.2
    cases h with
    | object e => exact Option.some_ne_none slot (known.symm.trans found)
    | standIn n inner => exact Option.some_ne_none slot (known.symm.trans found)
    | wrapper n type own inner => cases found

/-- Without a slot and without an identity field there is nowhere to record an identity. -/
theorem assign_of_none {t : Tracker} {info : EntityClass} (absent : t.slot? h = none)
    (registered : rules.schema.classOf h = .ok info) (noField : info.identityField = none)
    (id : EntityId) :
    t.assign rules h id = .failed t (.schema (.noIdentityField info.typeName)) := by
  unfold Tracker.assign Tracker.assignField
  rw [absent, registered]
  dsimp only
  rw [noField]

/-- The identity of an object with a slot is what the slot holds. -/
theorem storeIdentity_of_some {t : Tracker} (found : t.slot? h = some slot) :
    t.storeIdentity rules h = .ok (t.heap.slots.get slot) := by
  unfold Tracker.storeIdentity
  rw [found]

/-- Without a slot and without an identity field there is no identity. -/
theorem storeIdentity_of_none {t : Tracker} {info : EntityClass} (absent : t.slot? h = none)
    (registered : rules.schema.classOf h = .ok info) (noField : info.identityField = none) :
    t.storeIdentity rules h = .ok none := by
  unfold Tracker.storeIdentity
  rw [absent]
  dsimp only
  rw [Tracker.fieldIdentity, registered]
  dsimp only
  rw [noField]

/-- A wrap of a stand-in, or of the object itself, enters the same object into the ledger. -/
theorem ledger_wrap_object (s : Session) (rules : TrackingRules) (bare : h.isWrapper = false) :
    (s.wrap rules h).ledger = (s.wrap rules (.object h.target)).ledger := by
  have object : (Handle.object h.target).isWrapper = false := rfl
  have schema : rules.schema.classOf (.object h.target) = rules.schema.classOf h := rfl
  have address : (Handle.object h.target).address = h.address := rfl
  unfold Session.wrap Tracker.wrap
  simp only [bare, object, schema, address, Bool.false_eq_true, if_false]
  cases rules.schema.classOf h with
  | error e => rfl
  | ok info =>
    dsimp only
    cases info.holdsIdentity with
    | true => simp only [if_true, Tracker.share, Outcome.pure, bare, object, Bool.false_eq_true, if_false]
    | false =>
      simp only [Bool.false_eq_true, if_false]
      cases s.tracker.roster.wrapper? s.tracker.heap h.address with
      | some wrapper => rfl
      | none =>
        dsimp only
        cases (s.tracker.cache.getOrBuild info.typeName (WrapperCache.building info)).result with
        | error e => rfl
        | ok type => rfl

/-- **Identities are kept while what was wrapped lives.**  After any run on types without identity
fields, with wraps through any handles, after each step of which the entry of an object is alive: the
identity of the object, read through any live handle, is the one stored last; it has none, and none
can be recorded, if it never was wrapped.  It makes no difference whether an object is wrapped
directly or through a stand-in. -/
theorem reads_ledger_while_kept {cache : WrapperCache} {info : EntityClass}
    (run : KeepingRun h.target (start cache) s) (usable : s.Usable h)
    (registered : rules.schema.classOf h = .ok info) (noField : info.identityField = none) :
    s.tracker.storeIdentity rules h = .ok (s.ledger h.target.id).join ∧
    s.tracker.identityOrPlaceholder rules h =
      .ok (((s.ledger h.target.id).join.map EntityId.raw).getD h.placeholder) ∧
    (s.ledger h.target.id = none → ∀ id, s.tracker.assign rules h id =
      .failed s.tracker (.schema (.noIdentityField info.typeName))) ∧
    (s.ledger h.target.id ≠ none → ∀ id, (s.tracker.assign rules h id).result = .ok ()) ∧
    (∀ rules g, g.isWrapper = false →
      (s.wrap rules g).ledger = (s.wrap rules (.object g.target)).ledger) := by
  obtain ⟨rostered, loyal⟩ := run.loyal
  have ledger := loyal.slots_get rostered.toSound usable
  have identity : s.tracker.storeIdentity rules h = .ok (s.ledger h.target.id).join := by
    rw [← ledger]
    cases found : s.tracker.slot? h with
    | some slot => exact storeIdentity_of_some found
    | none => exact storeIdentity_of_none found registered noField
  refine ⟨identity, ?_, fun never id => ?_, fun wrapped id => ?_,
    fun rules g bare => ledger_wrap_object s rules bare⟩
  · rw [Tracker.identityOrPlaceholder, identity]
    rfl
  · rw [never, Option.map_eq_none_iff] at ledger
    exact assign_of_none ledger registered noField id
  · cases found : s.tracker.slot? h with
    | some slot =>
      unfold Tracker.assign
      rw [found]
    | none =>
      rw [found] at ledger
      exact absurd ledger.symm wrapped

/-- The identity is kept when the wrapper is dropped but not the stand-in that was wrapped. -/
theorem reads_ledger_while_kept_standIn :
    let node : Nat → Entity := fun n => ⟨n, 16, "Node", "node", "#0", .identity⟩
    let rules : TrackingRules := { schema := ⟨⟨[("node", { typeName := "node" })]⟩⟩ }
    let standIn := Handle.standIn 1 (.object (node 0))
    let w := Handle.wrapper 2 ⟨0, "node", "node$IdentityWrapper"⟩ 0 standIn
    ∃ s, KeepingRun (node 0) (start { capacity := 1 }) s ∧ s.Usable (.object (node 0)) ∧
      s.tracker.heap.isLive w.allocation = false ∧
      s.tracker.storeIdentity rules (.object (node 0)) = .ok (some ⟨7, by decide⟩) := by
  intro node rules standIn w
  let made := (start { capacity := 1 }).create node {}
  let standing := made.standIn (.object (node 0))
  let wrapped := standing.wrap rules standIn
  let stored := wrapped.assign rules (.object (node 0)) ⟨7, by decide⟩
  let dropped := stored.withHeap (stored.tracker.heap.release w)
  have unfielded : Unfielded rules standIn := ⟨{ typeName := "node" }, rfl, rfl⟩
  have collected : dropped.tracker.heap =
      { stored.tracker.heap with held := [standIn, .object (node 0)] }.sweep :=
    Heap.collect_eq_sweep (by decide) (by decide)
  have entry (s : Session) (one : s.tracker.roster.entries = [⟨16, 1, 0, w⟩])
      (live : s.tracker.heap.isLive 1 = true) : s.Kept (node 0) := by
    intro t member _ _
    rw [one, List.mem_singleton] at member
    rw [member]
    exact live
  have run : KeepingRun (Handle.object (node 0)).target (start { capacity := 1 }) dropped := by
    refine .tail (.tail (.tail (.tail (.tail .refl ⟨.create rfl ?_, ?_⟩) ⟨.standIn ?_, ?_⟩)
      ⟨.wrap ?_ unfielded, ?_⟩) ⟨.assign ?_ unfielded, ?_⟩) ⟨.drop, ?_⟩
    · intro e usable
      cases usable.1
    · intro t member
      cases member
    · exact ⟨List.mem_cons_self, rfl⟩
    · intro t member
      cases member
    · exact ⟨List.mem_cons_self, rfl⟩
    · exact entry wrapped rfl rfl
    · exact ⟨by decide, by decide⟩
    · exact entry stored rfl rfl
    · refine entry dropped rfl ?_
      rw [collected]
      decide
  have usable : dropped.Usable (.object (node 0)) := by
    refine ⟨by decide, ?_⟩
    rw [collected]
    decide
  have registered : rules.schema.classOf (.object (node 0)) = .ok { typeName := "node" } := rfl
  have answers := reads_ledger_while_kept run usable registered rfl
  refine ⟨dropped, run, usable, ?_, answers.1⟩
  rw [collected]
  decide

/-- **Wrapping a stand-in is not wrapping the object.**  An object is wrapped, gets an identity, and
then the wrapper and a stand-in are dropped; the object itself is held all the time.  If it was
wrapped directly the identity is still there, and if the stand-in was wrapped it is gone. -/
theorem standIn_forgets :
    let node : Nat → Entity := fun n => ⟨n, 16, "Node", "node", "#0", .identity⟩
    let rules : TrackingRules := { schema := ⟨⟨[("node", { typeName := "node" })]⟩⟩ }
    let object := Handle.object (node 0)
    let standIn := Handle.standIn 1 object
    let stored : Handle → Session := fun h =>
      ((((start { capacity := 1 }).create node {}).standIn object).wrap rules h).assign rules object
        ⟨7, by decide⟩
    let alone : Handle → Session := fun h =>
      (stored h).withHeap <|
        (stored h).tracker.heap.release (.wrapper 2 ⟨0, "node", "node$IdentityWrapper"⟩ 0 h)
    let bare : Handle → Session := fun h =>
      (alone h).withHeap ((alone h).tracker.heap.release standIn)
    (∀ h ∈ [object, standIn], h.target = node 0 ∧ Run Unfielded (start { capacity := 1 }) (bare h) ∧
      (bare h).Usable object) ∧
    (bare object).tracker.storeIdentity rules object = .ok (some ⟨7, by decide⟩) ∧
    (bare standIn).tracker.storeIdentity rules object = .ok none := by
  intro node rules object standIn stored alone bare
  have unfielded : Unfielded rules object := ⟨{ typeName := "node" }, rfl, rfl⟩
  have run (h : Handle) (made : ((start { capacity := 1 }).create node {}).standIn object |>.Usable h)
      (still : (((start { capacity := 1 }).create node {}).standIn object |>.wrap rules h).Usable
        object) (same : Unfielded rules h) : Run Unfielded (start { capacity := 1 }) (bare h) := by
    refine .tail (.tail (.tail (.tail (.tail (.tail .refl (.create rfl ?_)) (.standIn ?_))
      (.wrap made same)) (.assign still unfielded)) .drop) .drop
    · intro e usable
      cases usable.1
    · exact ⟨List.mem_cons_self, rfl⟩
  -- The wrapper goes first, since it holds the stand-in if that was wrapped.
  have heap (h : Handle) (either : h = object ∨ h = standIn) : (bare h).tracker.heap =
      { { (stored h).tracker.heap with held := [standIn, object] }.sweep with
        held := [object] }.sweep := by
    have one : (alone h).tracker.heap =
        { (stored h).tracker.heap with held := [standIn, object] }.sweep := by
      rcases either with rfl | rfl
      · exact Heap.collect_eq_sweep (by decide) (by decide)
      · exact Heap.collect_eq_sweep (by decide) (by decide)
    have released : (bare h).tracker.heap = (alone h).tracker.heap.release standIn := rfl
    rw [released, one]
    rcases either with rfl | rfl
    · exact Heap.collect_eq_sweep (by decide) (by decide)
    · exact Heap.collect_eq_sweep (by decide) (by decide)
  have asked (h : Handle) : (bare h).tracker.slot? object =
      (bare h).tracker.roster.slot? (bare h).tracker.heap object.address := rfl
  have direct := heap object (.inl rfl)
  have indirect := heap standIn (.inr rfl)
  refine ⟨fun h member => ?_, ?_, ?_⟩
  · simp only [List.mem_cons, List.not_mem_nil, or_false] at member
    rcases member with rfl | rfl
    · refine ⟨rfl, run object ⟨by decide, by decide⟩ ⟨by decide, by decide⟩ unfielded,
        by decide, ?_⟩
      rw [direct]
      decide
    · refine ⟨rfl, run standIn ⟨by decide, by decide⟩ ⟨by decide, by decide⟩ unfielded,
        by decide, ?_⟩
      rw [indirect]
      decide
  · have known : (bare object).tracker.slot? object = some 0 := by
      rw [asked, direct]
      decide
    rw [storeIdentity_of_some known, direct]
    rfl
  · have unknown : (bare standIn).tracker.slot? object = none := by
      rw [asked, indirect]
      decide
    exact storeIdentity_of_none unknown rfl rfl

end Session

end ObjectGraph
