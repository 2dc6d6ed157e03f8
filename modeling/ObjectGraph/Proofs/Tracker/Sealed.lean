import Mathlib.Logic.Function.Basic
import Mathlib.Logic.Relation
import ObjectGraph.Proofs.Cache.Calls
import ObjectGraph.Proofs.Tracker.Entries

/-!
# Sealed types and a shared cache

Trackers may share one cache of wrapper types, while each knows the classes that were registered with
it.  That a class is sealed is found when a wrapper type is built for it, and so it is not found while
one for the type name is in the cache.  A name gets into the cache in one way only: some tracker wraps
an object under a class of the name that is not sealed and has no identity field.

* `Trackers.Step.enters`: how a name gets into the cache.
* `Trackers.refuses_sealed`: sealed types are refused, unless they were wrapped before they were sealed
  and the wrapper type has been kept since; in that case they are wrapped.
-/

namespace ObjectGraph

/-! ## One wrap and the cache -/

/-- There can be wrappers for a class that is not sealed and has no identity field. -/
theorem EntityClass.wrapperObstacle?_eq_none_iff {info : EntityClass} :
    info.wrapperObstacle? = none ↔ info.wrappable = true ∧ info.identityField = none := by
  unfold wrapperObstacle? holdsIdentity
  cases info.wrappable <;> cases info.identityField <;> simp

/-- A sealed class is refused if the cache has no wrapper type for it; the cache stays as it is. -/
theorem WrapperCache.getOrBuild_sealed {c : WrapperCache} {info : EntityClass}
    (sealed : info.wrappable = false) (missing : info.typeName ∉ c.names) :
    (c.getOrBuild info.typeName (building info)).result =
        .error (.wrapperConstruction info.typeName .sealed) ∧
      (c.getOrBuild info.typeName (building info)).state = c := by
  have obstacle : info.wrapperObstacle? = some .sealed := by
    simp [EntityClass.wrapperObstacle?, sealed]
  have refused := planOf_eq_error_iff.2 ⟨.sealed, obstacle, rfl⟩
  rw [building_eq, refused]
  have ways := c.finds info.typeName (.error (.wrapperConstruction info.typeName .sealed))
  generalize c.getOrBuild info.typeName _ = o at ways ⊢
  cases ways with
  | hit found => exact absurd (mem_names_of_find? found) missing
  | failed _ planned =>
    cases planned
    exact ⟨rfl, rfl⟩
  | built _ planned => cases planned

namespace Tracker

variable {t : Tracker} {rules : TrackingRules} {h : Handle} {info : EntityClass} {name : String}

theorem cache_newWrapper (t : Tracker) (h : Handle) (type : WrapperType) :
    (t.newWrapper h type).2.1.cache = t.cache := by
  obtain ⟨slot, slots, -, -, state⟩ := t.newWrapper_eq h type
  rw [state]

/-- A wrap leaves the cache alone, or looks up the wrapper type for the class of the object. -/
theorem cache_wrap (t : Tracker) (rules : TrackingRules) (h : Handle) :
    (t.wrap rules h).state.cache = t.cache ∨ ∃ info, rules.schema.classOf h = .ok info ∧
      (t.wrap rules h).state.cache =
        (t.cache.getOrBuild info.typeName (WrapperCache.building info)).state := by
  unfold wrap
  split
  · exact .inl rfl
  · split
    · exact .inl rfl
    · next info registered =>
      split
      · exact .inl rfl
      · split
        · exact .inl rfl
        · refine .inr ⟨info, registered, ?_⟩
          dsimp only
          split
          · rfl
          · exact cache_newWrapper ..

/-- Only a wrap under a class that can have wrappers brings a name into the cache. -/
theorem enters_of_wrap (missing : name ∉ t.cache.names)
    (there : name ∈ (t.wrap rules h).state.cache.names) :
    ∃ info, rules.schema.classOf h = .ok info ∧ info.typeName = name ∧
      info.wrapperObstacle? = none := by
  rcases t.cache_wrap rules h with same | ⟨info, registered, looked⟩
  · rw [same] at there
    exact absurd there missing
  · rw [looked, WrapperCache.building_eq] at there
    obtain ⟨content, call⟩ := (t.cache.change (.getOrBuild info.typeName _)).enters missing there
    refine ⟨info, registered, ?_⟩
    injection call with same planned
    exact ⟨same, WrapperCache.obstacle_of_planOf_eq_ok planned⟩

/-- What is left of a wrap when the object has no wrapper, and its class no identity field. -/
theorem wrap_eq (bare : h.isWrapper = false) (registered : rules.schema.classOf h = .ok info)
    (plain : info.holdsIdentity = false) (none : t.roster.wrapper? t.heap h.address = none) :
    t.wrap rules h =
      ((t.cache.getOrBuild info.typeName (WrapperCache.building info)).mapState fun cache =>
        { t with cache }).andThen fun type t =>
          ⟨.ok (t.newWrapper h type).1, (t.newWrapper h type).2.1,
            (t.newWrapper h type).2.2 ++ [.entityWrapped info.typeName type.name]⟩ := by
  unfold wrap
  rw [bare, if_neg Bool.false_ne_true, registered]
  dsimp only
  rw [plain, if_neg Bool.false_ne_true, none]
  unfold Outcome.mapState Outcome.andThen
  dsimp only
  cases (t.cache.getOrBuild info.typeName (WrapperCache.building info)).result with
  | error e => rfl
  | ok type =>
    dsimp only
    rw [List.append_assoc]

/-- An object without a wrapper, of a class without an identity field, is wrapped if the cache has a
wrapper type for it. -/
theorem wrap_resident {type : WrapperType} (bare : h.isWrapper = false)
    (registered : rules.schema.classOf h = .ok info) (plain : info.holdsIdentity = false)
    (none : t.roster.wrapper? t.heap h.address = none)
    (found : t.cache.find? info.typeName = some type) :
    ∃ slot, (t.wrap rules h).result = .ok (.wrapper t.heap.next type slot h) := by
  have looked : t.cache.getOrBuild info.typeName (WrapperCache.building info) =
      .pure (t.cache.touch info.typeName type) type := by
    unfold WrapperCache.getOrBuild
    rw [WrapperCache.get_of_some found]
  rw [wrap_eq bare registered plain none, looked]
  obtain ⟨slot, -, -, made, -⟩ :=
    newWrapper_eq { t with cache := t.cache.touch info.typeName type } h type
  exact ⟨slot, congrArg Except.ok made⟩

end Tracker

/-! ## Trackers that share a cache -/

/-- Trackers that share the objects and a cache of wrapper types.  Each has its own roster, and its
own rules with the classes registered with it. -/
structure Trackers where
  heap : Heap := {}
  cache : WrapperCache
  roster : Nat → Roster := fun _ => {}
  rules : Nat → TrackingRules := fun _ => {}

namespace Trackers

variable {s s' : Trackers} {i : Nat} {h : Handle} {info : EntityClass} {name : String}

def tracker (s : Trackers) (i : Nat) : Tracker := ⟨s.heap, s.cache, s.roster i⟩

def register (s : Trackers) (i : Nat) (c : EntityClass) : Trackers :=
  let rules := { s.rules i with schema := ((s.rules i).schema.register c).1 }
  { s with rules := Function.update s.rules i rules }

/-- The class registered last is the one that the tracker knows. -/
theorem classOf_register {c : EntityClass} (named : h.typeName = c.typeName) :
    ((s.register i c).rules i).schema.classOf h = .ok c := by
  unfold register
  dsimp only
  rw [Function.update_self]
  unfold Schema.register Schema.classOf Schema.classNamed
  rw [NameMap.find?_insert, if_pos named]

/-- What is left after one of the trackers has wrapped, or failed to wrap. -/
def wrap (s : Trackers) (i : Nat) (h : Handle) : Trackers :=
  let t := ((s.tracker i).wrap (s.rules i) h).state
  { s with heap := t.heap, cache := t.cache, roster := Function.update s.roster i t.roster }

/-- One operation.  Objects, stand-ins, wrappers, fields and slots may come, change and go in any
way, and of the calls on the cache all are allowed that build nothing. -/
inductive Step (s : Trackers) : Trackers → Prop
  | register {i : Nat} {c : EntityClass} : Step s (s.register i c)
  | wrap {i : Nat} {h : Handle} : Step s (s.wrap i h)
  | objects {heap : Heap} : Step s { s with heap }
  | call {call : WrapperCache.Call} : (∀ name plan, call ≠ .getOrBuild name plan) →
    Step s { s with cache := call.run s.cache }

/-- Any number of operations. -/
abbrev Run : Trackers → Trackers → Prop := Relation.ReflTransGen Step

/-- Operations during which the wrapper type of the name stays in the cache. -/
abbrev KeepingRun (name : String) : Trackers → Trackers → Prop :=
  Relation.ReflTransGen fun s s' => Step s s' ∧ name ∈ s'.cache.names

/-- One of the trackers has put the wrapper type of the name into the cache, by a wrap of an object
whose class, as registered with that tracker, was not sealed and had no identity field. -/
def Enters (name : String) (s s' : Trackers) : Prop :=
  ∃ i h info, s' = s.wrap i h ∧ (s.rules i).schema.classOf h = .ok info ∧ info.typeName = name ∧
    info.wrappable = true ∧ info.identityField = none

/-- **There is one way for a name into the cache.** -/
theorem Step.enters (step : Step s s') (missing : name ∉ s.cache.names)
    (there : name ∈ s'.cache.names) : Enters name s s' := by
  cases step with
  | register | objects => exact absurd there missing
  | @wrap i h =>
    obtain ⟨info, registered, named, obstacle⟩ := Tracker.enters_of_wrap missing there
    exact ⟨i, h, info, rfl, registered, named, EntityClass.wrapperObstacle?_eq_none_iff.1 obstacle⟩
  | @call call noBuild =>
    obtain ⟨content, rfl⟩ := (s.cache.change call).enters missing there
    exact absurd rfl (noBuild name (.ok content))

/-- A name in the cache got there in that way, and has been there since. -/
theorem Run.entered {start : Trackers} (empty : start.cache.entries = []) (run : Run start s)
    (there : name ∈ s.cache.names) :
    ∃ before after, Run start before ∧ Enters name before after ∧ KeepingRun name after s := by
  induction run with
  | refl =>
    rw [WrapperCache.names, empty] at there
    cases there
  | @tail s s' run step ih =>
    -- The name was there before the last operation, or that operation brought it.
    by_cases old : name ∈ s.cache.names
    · obtain ⟨before, after, first, enters, kept⟩ := ih old
      exact ⟨before, after, first, enters, kept.tail ⟨step, there⟩⟩
    · exact ⟨s, s', run, step.enters old there, .refl⟩

/-! ## Sealed types -/

/-- **Sealed types are refused, unless they were wrapped before.**  After any run, take an object
without a live wrapper, of a type whose class is sealed, as registered with one of the trackers, and
has no identity field.  If the cache has no wrapper type for it, that tracker refuses to wrap it, and
nothing changes.  If it has one, the object is wrapped all the same; then some tracker put it there
when it wrapped an object of a class of that name that was not sealed, and it has been there since. -/
theorem refuses_sealed {start : Trackers} (empty : start.cache.entries = []) (run : Run start s)
    (registered : (s.rules i).schema.classOf h = .ok info) (sealed : info.wrappable = false)
    (noField : info.identityField = none) (bare : h.isWrapper = false)
    (none : (s.roster i).wrapper? s.heap h.address = none) :
    (info.typeName ∉ s.cache.names →
      ((s.tracker i).wrap (s.rules i) h).result =
          .error (.wrapperConstruction info.typeName .sealed) ∧
        s.wrap i h = s) ∧
    (info.typeName ∈ s.cache.names →
      (∃ type slot, s.cache.find? info.typeName = some type ∧
        ((s.tracker i).wrap (s.rules i) h).result = .ok (.wrapper s.heap.next type slot h)) ∧
      ∃ before after, Run start before ∧ Enters info.typeName before after ∧
        KeepingRun info.typeName after s) := by
  have plain : info.holdsIdentity = false := by simp [EntityClass.holdsIdentity, noField]
  refine ⟨fun missing => ?_, fun there => ⟨?_, run.entered empty there⟩⟩
  · have wrapped := Tracker.wrap_eq (t := s.tracker i) bare registered plain none
    obtain ⟨result, state⟩ :=
      WrapperCache.getOrBuild_sealed (c := (s.tracker i).cache) sealed missing
    unfold Outcome.mapState Outcome.andThen at wrapped
    rw [result, state] at wrapped
    refine ⟨congrArg Outcome.result wrapped, ?_⟩
    rw [Trackers.wrap, wrapped, tracker, Function.update_eq_self]
  · cases found : s.cache.find? info.typeName with
    | none => exact absurd there (WrapperCache.find?_eq_none_iff.1 found)
    | some type =>
      obtain ⟨slot, result⟩ :=
        Tracker.wrap_resident (t := s.tracker i) bare registered plain none found
      exact ⟨type, slot, rfl, result⟩

/-- A tracker refuses a sealed type while the cache has what another one wrapped. -/
theorem refuses_sealed_beside :
    let leaf : Handle := .object ⟨0, 16, "Leaf", "leaf", "#0", .identity⟩
    let node : Handle := .object ⟨1, 32, "Node", "node", "#1", .identity⟩
    let heap : Heap := { live := [⟨leaf, {}⟩, ⟨node, {}⟩], held := [leaf, node], next := 2 }
    let start : Trackers := { heap, cache := { capacity := 1 } }
    let info : EntityClass := { typeName := "node", wrappable := false }
    let s := ((start.register 1 { typeName := "leaf" }).wrap 1 leaf).register 0 info
    Run start s ∧ s.cache.names = ["leaf"] ∧
      ((s.tracker 0).wrap (s.rules 0) node).result =
        .error (.wrapperConstruction "node" .sealed) ∧
      s.wrap 0 node = s := by
  intro leaf node heap start info s
  have run : Run start s := .tail (.tail (.tail .refl .register) .wrap) .register
  have registered : (s.rules 0).schema.classOf node = .ok info := classOf_register rfl
  have resident : s.cache.names = ["leaf"] := rfl
  have missing : info.typeName ∉ s.cache.names := by
    rw [resident]
    decide
  exact ⟨run, resident, (refuses_sealed rfl run registered rfl rfl rfl rfl).1 missing⟩

/-- A wrapper type from before the class was sealed serves a tracker after that. -/
theorem wraps_sealed :
    let first : Handle := .object ⟨0, 16, "Node", "node", "#0", .identity⟩
    let second : Handle := .object ⟨1, 32, "Node", "node", "#1", .identity⟩
    let heap : Heap := { live := [⟨first, {}⟩, ⟨second, {}⟩], held := [first, second], next := 2 }
    let start : Trackers := { heap, cache := { capacity := 1 } }
    let resealed : EntityClass := { typeName := "node", wrappable := false }
    let s := ((start.register 0 { typeName := "node" }).wrap 0 first).register 0 resealed
    Run start s ∧ (s.rules 0).schema.classOf second = .ok resealed ∧
      resealed.wrappable = false ∧ resealed.identityField = none ∧ second.isWrapper = false ∧
      (s.roster 0).wrapper? s.heap second.address = none ∧
      ((s.tracker 0).wrap (s.rules 0) second).result =
        .ok (.wrapper s.heap.next ⟨0, "node", "node$IdentityWrapper"⟩ 1 second) := by
  intro first second heap start resealed s
  refine ⟨.tail (.tail (.tail .refl .register) .wrap) .register, classOf_register rfl, rfl, rfl, rfl,
    ?_, ?_⟩
  · decide
  · decide

end Trackers

end ObjectGraph
