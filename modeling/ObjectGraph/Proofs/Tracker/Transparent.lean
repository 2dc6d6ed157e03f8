import ObjectGraph.Mapper
import ObjectGraph.Proofs.Merge.Direct
import ObjectGraph.Proofs.Tracker.Rostered

/-!
# Stand-ins are transparent

A handle leads to its object through any number of bare stand-ins and identity wrappers.  Whatever is
asked or done through the handle ends as it would through the object itself.  Almost all of it looks
at the object alone.  The tracker does not: from a wrapper it takes the slot, and for other handles it
asks the roster, which agrees with every live wrapper.

* `Handle.alike_of_target`: what depends on the object alone.
* `Tracker.alike_of_slot`: what depends on the object and its slot.
* `Session.standIns_transparent`: after any run a live handle is as good as the object.
-/

namespace ObjectGraph

variable {g h : Handle}

/-! ## What depends on the object alone -/

/-- Classes, fields, labels, merges and comparisons do not tell two handles apart: results, errors and
what is left behind are the same. -/
structure Handle.Alike (g h : Handle) : Prop where
  classOf (schema : Schema) : schema.classOf g = schema.classOf h
  read {ρ ω : Type} (field : FieldAccess ρ ω) (heap : Heap) : field.read heap g = field.read heap h
  write {ρ ω : Type} (field : FieldAccess ρ ω) (heap : Heap) (value : ω) :
    field.write heap g value = field.write heap h value
  labels (info : EntityClass) (heap : Heap) : info.labels heap g = info.labels heap h
  mapperLabels (w : Workspace) : Mapper.labels w g = Mapper.labels w h
  hydrate (m : Mapper) (w : Workspace) (name : String) (new : Payload) :
    m.hydrate w g name new = m.hydrate w h name new
  hydrateJson (m : Mapper) (w : Workspace) (name : String) (new : Json.Value) :
    m.hydrateJson w g name new = m.hydrateJson w h name new
  placeholder : g.placeholder = h.placeholder
  address : g.address = h.address
  equal (k : Handle) : g.equal k = h.equal k ∧ k.equal g = k.equal h
  compare (k : Handle) : g.compare k = h.compare k ∧ k.compare g = k.compare h
  hash : (Value.entity g).hashContent = (Value.entity h).hashContent
  text : (Value.entity g).display = (Value.entity h).display

theorem Handle.typeName_congr (same : g.target = h.target) : g.typeName = h.typeName :=
  congrArg Entity.typeName same

theorem Schema.classOf_congr (same : g.target = h.target) (schema : Schema) :
    schema.classOf g = schema.classOf h := by
  rw [classOf, classOf, Handle.typeName_congr same]

namespace FieldAccess

variable {ρ ω : Type} {field : FieldAccess ρ ω}

theorem mismatch_congr (same : g.target = h.target) : field.mismatch g = field.mismatch h := by
  rw [mismatch, mismatch, Handle.typeName_congr same]

theorem read_congr (same : g.target = h.target) (heap : Heap) :
    field.read heap g = field.read heap h := by
  rw [read, read, same, mismatch_congr same]

theorem write_congr (same : g.target = h.target) (heap : Heap) (value : ω) :
    field.write heap g value = field.write heap h value := by
  rw [write, write, same, mismatch_congr same, Handle.typeName_congr same]

end FieldAccess

theorem EntityClass.labels_congr (same : g.target = h.target) (info : EntityClass) (heap : Heap) :
    info.labels heap g = info.labels heap h := by
  have own : info.dynamicLabels heap g = info.dynamicLabels heap h := by
    unfold dynamicLabels
    cases info.labelField with
    | none => rfl
    | some field =>
      dsimp only
      rw [FieldAccess.read_congr same]
  rw [labels, labels, own]

theorem Workspace.collection_congr (same : g.target = h.target) (w : Workspace) (name : String) :
    w.collection g name = w.collection h name := by
  unfold collection
  rw [Schema.classOf_congr same]
  refine bind_congr fun info => bind_congr fun field => ?_
  rw [FieldAccess.read_congr same]

theorem Mapper.hydrate_congr (same : g.target = h.target) (m : Mapper) (w : Workspace)
    (name : String) (new : Payload) : m.hydrate w g name new = m.hydrate w h name new := by
  unfold hydrate
  rw [Workspace.collection_congr same]
  cases w.collection h name with
  | error e => rfl
  | ok found =>
    dsimp only
    cases m.policy.merge found.1.shape found.1.element new found.2 with
    | error e => rfl
    | ok merged =>
      dsimp only
      rw [FieldAccess.write_congr same, Handle.typeName_congr same]

/-- **What depends on the object alone** does not tell handles to it apart. -/
theorem Handle.alike_of_target (same : g.target = h.target) : g.Alike h where
  classOf := Schema.classOf_congr same
  read _ := FieldAccess.read_congr same
  write _ := FieldAccess.write_congr same
  labels := EntityClass.labels_congr same
  mapperLabels w := by
    unfold Mapper.labels
    rw [Schema.classOf_congr same]
    cases w.schema.classOf h with
    | error e => rfl
    | ok info =>
      dsimp only
      rw [EntityClass.labels_congr same]
  hydrate := Mapper.hydrate_congr same
  hydrateJson m w name new := by
    unfold Mapper.hydrateJson
    cases Payload.ofJson new with
    | error e => rfl
    | ok payload => exact Mapper.hydrate_congr same m w name payload
  placeholder := by rw [placeholder, placeholder, address, address, same]
  address := by rw [address, address, same]
  equal k := by simp only [equal, same, and_self]
  compare k := by simp only [compare, same, and_self]
  hash := by simp only [Value.hashContent, address, same]
  text := by rw [Value.display, Value.display, same]

/-! ## What depends on the slot -/

/-- A tracker does not tell two handles apart: what it answers, what it records and what it reports
are the same. -/
structure Tracker.Alike (t : Tracker) (g h : Handle) : Prop where
  slot : t.slot? g = t.slot? h
  storeIdentity (rules : TrackingRules) : t.storeIdentity rules g = t.storeIdentity rules h
  identityOrPlaceholder (rules : TrackingRules) :
    t.identityOrPlaceholder rules g = t.identityOrPlaceholder rules h
  assign (rules : TrackingRules) (id : EntityId) : t.assign rules g id = t.assign rules h id

namespace Tracker

variable {t : Tracker}

theorem fieldIdentity_congr (same : g.target = h.target) (rules : TrackingRules) :
    t.fieldIdentity rules g = t.fieldIdentity rules h := by
  unfold fieldIdentity
  rw [Schema.classOf_congr same]
  cases rules.schema.classOf h with
  | error e => rfl
  | ok info =>
    dsimp only
    cases info.identityField with
    | none => rfl
    | some field =>
      dsimp only
      rw [FieldAccess.read_congr same]

theorem assignField_congr (same : g.target = h.target) (rules : TrackingRules) (id : EntityId) :
    t.assignField rules g id = t.assignField rules h id := by
  unfold assignField
  rw [Schema.classOf_congr same]
  cases rules.schema.classOf h with
  | error e => rfl
  | ok info =>
    dsimp only
    cases info.identityField with
    | none => rfl
    | some field =>
      dsimp only
      cases rules.coercion field.element (.long id.raw) with
      | error e => rfl
      | ok v =>
        dsimp only
        rw [FieldAccess.write_congr same]

/-- **What depends on the object and its slot** does not tell handles apart that lead to the same
ones. -/
theorem alike_of_slot (same : g.target = h.target) (slot : t.slot? g = t.slot? h) : t.Alike g h := by
  have identity (rules : TrackingRules) : t.storeIdentity rules g = t.storeIdentity rules h := by
    rw [Tracker.storeIdentity, Tracker.storeIdentity, slot, fieldIdentity_congr same]
  refine ⟨slot, identity, fun rules => ?_, fun rules id => ?_⟩
  · rw [Tracker.identityOrPlaceholder, Tracker.identityOrPlaceholder, identity,
      (Handle.alike_of_target same).placeholder]
  · rw [Tracker.assign, Tracker.assign, slot, assignField_congr same, Handle.typeName_congr same]

end Tracker

namespace Session

variable {permits : TrackingRules → Handle → Prop} {s : Session}

/-- A live handle leads to the slot that the object itself leads to. -/
theorem Rostered.slot?_direct (rostered : s.Rostered) (usable : s.Usable h) :
    s.tracker.slot? h = s.tracker.slot? h.direct := by
  cases h with
  | object e => rfl
  | standIn n inner => rfl
  | wrapper n type slot inner => exact (rostered.slot?_of_wrapper usable).symm

/-- **Stand-ins are transparent.**  After any run, through a live handle to an object, over any number
of stand-ins and identity wrappers: classes, fields, labels, hydration, comparison and text are as
through the object itself, and so are the identities that the tracker, or a mapper with the tracker,
reads and records.  The handle and the object are the same member of every set, no merge under a
coercion that looks through stand-ins tells them apart, and a union without repetitions does not hold
both. -/
theorem standIns_transparent {cache : WrapperCache} (run : Run permits (start cache) s)
    (usable : s.Usable h) :
    h.Alike h.direct ∧ s.tracker.Alike h h.direct ∧
    (∀ (m : Mapper) (w : Workspace), m.tracker w = s.tracker →
      m.storeIdentity w h = m.storeIdentity w h.direct ∧
      m.identityOrPlaceholder w h = m.identityOrPlaceholder w h.direct ∧
      ∀ id, m.assign w h id = m.assign w h.direct id) ∧
    ((Value.entity h).sameMember (.entity h.direct) = true ∧
      (Value.entity h.direct).sameMember (.entity h) = true) ∧
    Coercion.standard.SeesThrough ∧
    (∀ (r : MergePolicy) shape element new new' current current', r.coercion.SeesThrough →
      Payload.direct new = Payload.direct new' →
      Option.map Container.direct current = Option.map Container.direct current' →
      (r.merge shape element new current).map Container.direct =
        (r.merge shape element new' current').map Container.direct) ∧
    (∀ (r : MergePolicy) shape element new vs current merged, r.keepsRepetitions shape = false →
      Container.values current ≠ [] → Payload.toValues element new = .ok vs → vs ≠ [] →
      r.merge shape element new (some current) = .ok merged →
      merged.values.Pairwise Value.Apart) := by
  have rostered := run.rostered
  have target : h.target = h.direct.target := rfl
  have tracked : s.tracker.Alike h h.direct :=
    Tracker.alike_of_slot target (rostered.slot?_direct usable)
  refine ⟨Handle.alike_of_target target, tracked, fun m w same => ⟨?_, ?_, fun id => ?_⟩,
    ⟨Value.sameMember_of_target target, Value.sameMember_of_target target.symm⟩,
    Coercion.standard_seesThrough, ?_, ?_⟩
  · rw [Mapper.storeIdentity, Mapper.storeIdentity, same, tracked.storeIdentity]
  · rw [Mapper.identityOrPlaceholder, Mapper.identityOrPlaceholder, same,
      tracked.identityOrPlaceholder]
  · rw [Mapper.assign, Mapper.assign, same, tracked.assign]
  · intro r shape element new new' current current' sees payloads containers
    exact MergePolicy.merge_congr_direct sees payloads containers
  · intro r shape element new vs current merged once held read brought success
    exact MergePolicy.pairwise_apart_of_merge once held read brought success

/-- An identity is stored through a stand-in of a wrapper of a stand-in, and read through the object
and through the stand-in; a set takes both for one. -/
theorem standIns_transparent_chain :
    let node : Nat → Entity := fun n => ⟨n, 16, "Node", "node", "#0", .identity⟩
    let rules : TrackingRules := { schema := ⟨⟨[("node", { typeName := "node" })]⟩⟩ }
    let object := Handle.object (node 0)
    let w := Handle.wrapper 2 ⟨0, "node", "node$IdentityWrapper"⟩ 0 (.standIn 1 object)
    let chain := Handle.standIn 3 w
    let id : EntityId := ⟨7, by decide⟩
    ∃ s, Run (fun _ _ => True) (start { capacity := 1 }) s ∧ s.Usable chain ∧
      s.tracker.storeIdentity rules object = .ok (some id) ∧
      s.tracker.storeIdentity rules chain = .ok (some id) ∧
      ∀ merged, MergePolicy.merge {} .set (.entity "node") (.values [.entity chain])
        (some (.list [.entity object])) = .ok merged → merged.values.Pairwise Value.Apart := by
  intro node rules object w chain id
  let made := (start { capacity := 1 }).create node {}
  let wrapped := (made.standIn object).wrap rules (.standIn 1 object)
  let standing := wrapped.standIn w
  let stored := standing.assign rules chain id
  have run : Run (fun _ _ => True) (start { capacity := 1 }) stored := by
    refine .tail (.tail (.tail (.tail (.tail .refl (.create rfl ?_)) (.standIn ?_))
      (.wrap ?_ trivial)) (.standIn ?_)) (.assign ?_ trivial)
    · intro e usable
      cases usable.1
    · exact ⟨List.mem_cons_self, rfl⟩
    · exact ⟨List.mem_cons_self, rfl⟩
    · exact ⟨List.mem_cons_self, rfl⟩
    · exact ⟨List.mem_cons_self, rfl⟩
  have usable : stored.Usable chain := ⟨by decide, by decide⟩
  obtain ⟨-, tracked, -, -, -, -, once⟩ := standIns_transparent run usable
  have known : stored.tracker.storeIdentity rules object = .ok (some id) := rfl
  refine ⟨stored, run, usable, known, (tracked.storeIdentity rules).trans known, fun merged => ?_⟩
  exact once {} .set (.entity "node") _ [.entity chain] _ merged rfl (by simp [Container.values]) rfl
    (by simp)

end Session

end ObjectGraph
