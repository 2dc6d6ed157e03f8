import ObjectGraph.Proofs.Tracker.Transparent

/-!
# Mappers with other parts

The coercion and the cache of wrapper types of a mapper can be replaced, any number of times and in any
order.  What is not replaced stays, but the roster of wrapped objects starts again.  The identities are
still in their slots, where the wrappers from before find them; the objects do not.

* `Mapper.reconfigured_eq`: the mapper after any number of replacements.
* `Mapper.reconfigured_forgets`: which identities are found through it.
-/

namespace ObjectGraph

variable {h v : Handle} {rules : TrackingRules}

/-! ## Trackers that have wrapped nothing -/

namespace Tracker

variable {t : Tracker}

theorem slot?_of_empty (empty : t.roster = {}) (bare : h.isWrapper = false) : t.slot? h = none := by
  cases h with
  | object | standIn =>
    unfold slot?
    rw [empty]
    rfl
  | wrapper => cases bare

/-- A handle is given back as it is, or gets a new wrapper with an empty slot of its own. -/
theorem wrap_of_empty (empty : t.roster = {}) (wrapped : (t.wrap rules h).result = .ok v) :
    v = h ∨ ∃ type slot, v = .wrapper t.heap.next type slot h ∧
      (t.wrap rules h).state.heap.slots.get slot = none := by
  have ways := t.wraps rules h
  generalize t.wrap rules h = o at wrapped ways ⊢
  cases ways with
  | unknown | refused => cases wrapped
  | own =>
    cases wrapped
    exact .inl rfl
  | found _ _ _ known =>
    rw [empty] at known
    cases known
  | @new type cache _ _ bare =>
    obtain ⟨slot, slots, chosen, made, state⟩ := newWrapper_eq { t with cache } h type
    refine .inr ⟨type, slot, ?_, ?_⟩
    · exact (Except.ok.inj wrapped).symm.trans made
    · rcases chosen with ⟨known, -⟩ | ⟨-, fresh⟩
      · rw [empty] at known
        cases known
      · obtain ⟨rfl, rfl⟩ := Prod.mk.inj fresh
        rw [state]
        refine (Slots.get_fresh t.heap.slots _).trans ?_
        rw [Slots.get, List.getElem?_eq_none (Nat.le_refl _)]
        rfl

end Tracker

/-! ## Replacing parts -/

namespace Mapper

/-- The replacement of one part of a mapper. -/
inductive Change where
  | coercion (new : Coercion)
  | cache (number : Nat)

def Change.apply (m : Mapper) : Change → Mapper
  | .coercion new => m.withCoercion new
  | .cache number => m.withCache number

def Change.coercion? : Change → Option Coercion
  | .coercion new => some new
  | .cache _ => none

def Change.cache? : Change → Option Nat
  | .coercion _ => none
  | .cache number => some number

/-- The mapper after some replacements, one after the other. -/
def reconfigured (m : Mapper) (changes : List Change) : Mapper := changes.foldl Change.apply m

variable {m : Mapper} {w : Workspace} {changes : List Change}

theorem reconfigured_concat (m : Mapper) (changes : List Change) (change : Change) :
    m.reconfigured (changes ++ [change]) = change.apply (m.reconfigured changes) := by
  rw [reconfigured, List.foldl_append]
  rfl

/-- **What replacements leave.**  Of each part the last replacement counts, whatever comes between. -/
theorem reconfigured_eq (m : Mapper) (changes : List Change) :
    m.reconfigured changes =
      { settings := m.settings
        coercion := (changes.filterMap Change.coercion?).getLast?.getD m.coercion
        cache := (changes.filterMap Change.cache?).getLast?.getD m.cache
        roster := if changes = [] then m.roster else {} } := by
  induction changes using List.reverseRecOn with
  | nil => rfl
  | append_singleton changes change ih =>
    rw [reconfigured_concat, ih, if_neg (List.concat_ne_nil change changes)]
    cases change with
    | coercion new => simp [Change.apply, withCoercion, Change.coercion?, Change.cache?]
    | cache number => simp [Change.apply, withCache, Change.coercion?, Change.cache?]

theorem roster_reconfigured (changed : changes ≠ []) : (m.reconfigured changes).roster = {} := by
  rw [reconfigured_eq]
  exact if_neg changed

/-! ## Identities after that -/

/-- A wrapper has the slot, and so every mapper finds the same identity through it. -/
theorem storeIdentity_of_wrapper (m m' : Mapper) (w : Workspace) (wrapper : v.isWrapper = true) :
    m'.storeIdentity w v = m.storeIdentity w v := by
  cases v with
  | object | standIn => cases wrapper
  | wrapper => rfl

theorem storeIdentity_of_empty (empty : m.roster = {}) (bare : h.isWrapper = false) :
    m.storeIdentity w h = ((m.tracker w).fieldIdentity (m.rules w) h).mapError .identity := by
  unfold storeIdentity Tracker.storeIdentity
  rw [Tracker.slot?_of_empty empty bare]

/-- A mapper succeeds with what its tracker succeeds with. -/
theorem ofTracker_eq_ok_iff {α : Type} {o : Outcome Tracker IdentityError α} {a : α} :
    (m.ofTracker w o).result = .ok a ↔ o.result = .ok a := by
  show Except.mapError _ o.result = .ok a ↔ _
  cases o.result with
  | error e => simp [Except.mapError]
  | ok b => simp [Except.mapError]

/-- What a mapper wraps that has wrapped nothing so far is given back as it is, or gets a new wrapper,
which has no identity. -/
theorem wrap_of_empty (empty : m.roster = {}) (wrapped : (m.wrap w h).result = .ok v) :
    v = h ∨ v.allocation = w.heap.next ∧
      (m.wrap w h).state.1.storeIdentity (m.wrap w h).state.2 v = .ok none := by
  have done := ofTracker_eq_ok_iff.1 wrapped
  rcases Tracker.wrap_of_empty (t := m.tracker w) empty done with rfl | ⟨type, slot, rfl, none⟩
  · exact .inl rfl
  · exact .inr ⟨rfl, congrArg Except.ok none⟩

/-! ## Sessions with a mapper -/

section Sessions

variable {permits : TrackingRules → Handle → Prop} {cache : WrapperCache} {s : Session}

/-- All live handles to an object lead to one identity, unless parts are replaced. -/
theorem storeIdentity_of_run (run : Session.Run permits (Session.start cache) s)
    (same : m.tracker w = s.tracker) (hUsable : s.Usable h) (vUsable : s.Usable v)
    (target : v.target = h.target) : m.storeIdentity w v = m.storeIdentity w h := by
  have rostered := run.rostered
  have direct : v.direct = h.direct := congrArg Handle.object target
  have slots : (m.tracker w).slot? v = (m.tracker w).slot? h := by
    rw [same, rostered.slot?_direct vUsable, rostered.slot?_direct hUsable, direct]
  rw [storeIdentity, (Tracker.alike_of_slot target slots).storeIdentity]
  rfl

/-- After replacements, no wrapper from before is given to an object that is wrapped again. -/
theorem wrap_ne_of_run (run : Session.Run permits (Session.start cache) s)
    (heap : w.heap = s.tracker.heap) (empty : m.roster = {}) (usable : s.Usable v)
    (wrapper : v.isWrapper = true) (bare : h.isWrapper = false) : (m.wrap w h).result ≠ .ok v := by
  intro again
  rcases wrap_of_empty empty again with rfl | ⟨new, -⟩
  · rw [bare] at wrapper
    cases wrapper
  · have old : v.allocation < w.heap.next := by
      rw [heap]
      exact run.rostered.heap.numbered v usable.1
    rw [new] at old
    exact absurd old (Nat.lt_irrefl _)

end Sessions

/-- **Identities after replacements.**  The settings stay, and so does what was not replaced; of the
rest the last replacement counts.  Through a wrapper the identity is found as before.  Through any other
handle it is the one in the identity field, under the new coercion, and there is none if the class has
no such field; if such a handle is wrapped again, it gets a new wrapper without an identity.  So, after
any run of a session with the mapper, what was found through an object is found through its live
wrappers, but none of them is found through the object. -/
theorem reconfigured_forgets (m : Mapper) (w : Workspace) (changes : List Change) :
    let m' := m.reconfigured changes
    (m'.settings = m.settings ∧
      m'.coercion = (changes.filterMap Change.coercion?).getLast?.getD m.coercion ∧
      m'.cache = (changes.filterMap Change.cache?).getLast?.getD m.cache ∧
      (changes = [] → m' = m)) ∧
    (∀ v, v.isWrapper = true → m'.storeIdentity w v = m.storeIdentity w v) ∧
    (changes ≠ [] → ∀ h, h.isWrapper = false →
      m'.storeIdentity w h = ((m'.tracker w).fieldIdentity (m'.rules w) h).mapError .identity ∧
      (∀ info, w.schema.classOf h = .ok info → info.identityField = none →
        m'.storeIdentity w h = .ok none) ∧
      ∀ v, (m'.wrap w h).result = .ok v → v = h ∨ v.allocation = w.heap.next ∧
        (m'.wrap w h).state.1.storeIdentity (m'.wrap w h).state.2 v = .ok none) ∧
    ∀ permits cache s, Session.Run permits (Session.start cache) s → m.tracker w = s.tracker →
      ∀ h v, s.Usable h → s.Usable v → v.isWrapper = true → v.target = h.target →
        m'.storeIdentity w v = m.storeIdentity w h ∧
        (changes ≠ [] → h.isWrapper = false → (m'.wrap w h).result ≠ .ok v) := by
  intro m'
  have kept : ∀ v, v.isWrapper = true → m'.storeIdentity w v = m.storeIdentity w v :=
    fun v => storeIdentity_of_wrapper m m' w
  refine ⟨?_, kept, fun changed h bare => ?_, ?_⟩
  · have parts : m' = _ := reconfigured_eq m changes
    rw [parts]
    refine ⟨rfl, rfl, rfl, ?_⟩
    rintro rfl
    rfl
  · have empty : m'.roster = {} := roster_reconfigured changed
    have identity := storeIdentity_of_empty (w := w) empty bare
    refine ⟨identity, fun info registered noField => ?_, fun v => wrap_of_empty empty⟩
    have found : (m'.rules w).schema.classOf h = .ok info := registered
    rw [identity, Tracker.fieldIdentity, found]
    dsimp only
    rw [noField]
    rfl
  · intro permits cache s run same h v hUsable vUsable wrapper target
    have found := storeIdentity_of_run run same hUsable vUsable target
    refine ⟨(kept v wrapper).trans found, fun changed bare => ?_⟩
    have heap : w.heap = s.tracker.heap := congrArg Tracker.heap same
    exact wrap_ne_of_run run heap (roster_reconfigured changed) vUsable wrapper bare

/-- An identity stored through a mapper, of which then the cache and the coercion are replaced. -/
theorem reconfigured_forgets_stored :
    let node : Nat → Entity := fun n => ⟨n, 16, "Node", "node", "#0", .identity⟩
    let rules : TrackingRules := { schema := ⟨⟨[("node", { typeName := "node" })]⟩⟩ }
    let object := Handle.object (node 0)
    let wrapper := Handle.wrapper 1 ⟨0, "node", "node$IdentityWrapper"⟩ 0 object
    let id : EntityId := ⟨7, by decide⟩
    ∃ s, Session.Run (fun _ _ => True) (Session.start { capacity := 1 }) s ∧
      s.Usable object ∧ s.Usable wrapper ∧
      let w : Workspace :=
        { heap := s.tracker.heap, schema := rules.schema, caches := [s.tracker.cache] }
      let m : Mapper := { cache := 0, roster := s.tracker.roster }
      let m' := m.reconfigured [.cache 1, .coercion Coercion.standard]
      m'.cache = 1 ∧ m.storeIdentity w object = .ok (some id) ∧
        m'.storeIdentity w wrapper = .ok (some id) ∧ m'.storeIdentity w object = .ok none := by
  intro node rules object wrapper id
  let made := (Session.start { capacity := 1 }).create node {}
  let wrapped := made.wrap rules object
  let stored := wrapped.assign rules object id
  have run : Session.Run (fun _ _ => True) (Session.start { capacity := 1 }) stored := by
    refine .tail (.tail (.tail .refl (.create rfl ?_)) (.wrap ?_ trivial)) (.assign ?_ trivial)
    · intro e usable
      cases usable.1
    · exact ⟨List.mem_cons_self, rfl⟩
    · exact ⟨by decide, by decide⟩
  have objectUsable : stored.Usable object := ⟨by decide, by decide⟩
  have wrapperUsable : stored.Usable wrapper := ⟨by decide, by decide⟩
  refine ⟨stored, run, objectUsable, wrapperUsable, ?_⟩
  intro w m m'
  obtain ⟨⟨-, -, cache, -⟩, -, others, kept⟩ :=
    reconfigured_forgets m w [.cache 1, .coercion Coercion.standard]
  have found : m.storeIdentity w object = .ok (some id) := rfl
  obtain ⟨-, none, -⟩ := others (List.cons_ne_nil _ _) object rfl
  obtain ⟨same, -⟩ :=
    kept _ _ stored run rfl object wrapper objectUsable wrapperUsable rfl rfl
  exact ⟨cache, found, same.trans found, none { typeName := "node" } rfl rfl⟩

/-- After the coercion was replaced the object has no identity, while the wrapper from before has the
one that was stored, and another wrap makes another wrapper. -/
theorem reconfigured_loses :
    let object := Handle.object ⟨0, 16, "Node", "node", "#0", .identity⟩
    let wrapper := Handle.wrapper 1 ⟨0, "node", "node$IdentityWrapper"⟩ 0 object
    let other := Handle.wrapper 2 ⟨0, "node", "node$IdentityWrapper"⟩ 1 object
    let id : EntityId := ⟨7, by decide⟩
    let w : Workspace :=
      { heap := { live := [⟨object, {}⟩], held := [object], next := 1 }
        schema := ⟨⟨[("node", { typeName := "node" })]⟩⟩
        caches := [{ capacity := 1 }] }
    let wrapped := Mapper.wrap { cache := 0 } w object
    let stored := (wrapped.state.1.assign wrapped.state.2 object id).state
    let m := stored.1.reconfigured [.coercion Coercion.standard]
    wrapped.result = .ok wrapper ∧ stored.1.storeIdentity stored.2 object = .ok (some id) ∧
      m.storeIdentity stored.2 object = .ok none ∧
      m.storeIdentity stored.2 wrapper = .ok (some id) ∧
      (m.wrap stored.2 object).result = .ok other ∧ stored.2.heap.isLive 1 = true :=
  ⟨rfl, rfl, rfl, rfl, rfl, rfl⟩

end Mapper

end ObjectGraph
