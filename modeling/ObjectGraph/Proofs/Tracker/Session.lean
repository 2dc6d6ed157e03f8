import Mathlib.Logic.Relation
import ObjectGraph.Proofs.Tracker.Entries

/-!
# Sessions with a tracker

A session is a tracker together with what only an onlooker knows: every handle that was ever made,
and a ledger of the identities that were stored.  `Session.Step` is one operation on it, and
`Session.Run` any sequence of operations.

The ledger is what the tracker is measured by.  It is kept by the number of the object and changes
when an operation succeeds; slots, rosters, wrappers and addresses do not occur in it.  Identities
are read without any step, since nothing changes then.
-/

namespace ObjectGraph

/-- For each object whether it was ever wrapped, and the identity stored last. -/
abbrev Ledger := Nat → Option (Option EntityId)

/-- The object was wrapped; what was stored for it stays. -/
def Ledger.enter (l : Ledger) (object : Nat) : Ledger := fun n =>
  if n = object then some (l n).join else l n

/-- An identity was stored for the object. -/
def Ledger.record (l : Ledger) (object : Nat) (id : EntityId) : Ledger := fun n =>
  if n = object then some (some id) else l n

/-- What is known of an object is not lost when another one, or the same, enters. -/
theorem Ledger.enter_of_some {l : Ledger} {n object : Nat} {id? : Option EntityId}
    (known : l n = some id?) : l.enter object n = some id? := by
  unfold enter
  split
  · rw [known, Option.join_some]
  · exact known

/-- A tracker at work. -/
structure Session where
  tracker : Tracker := {}
  /-- All handles that were ever made, live or not. -/
  made : List Handle := []
  ledger : Ledger := fun _ => none

namespace Session

/-- A new tracker with a cache of wrapper types, before anything is made. -/
def start (cache : WrapperCache) : Session := { tracker := { cache } }

/-- A handle that somebody may hold: it was made, and it is alive. -/
def Usable (s : Session) (h : Handle) : Prop :=
  h ∈ s.made ∧ s.tracker.heap.isLive h.allocation = true

/-- A wrapper of the object with the slot was made. -/
def HasSlot (s : Session) (e : Entity) (slot : Nat) : Prop :=
  ∃ n type inner, .wrapper n type slot inner ∈ s.made ∧ inner.target = e

/-! ## Operations -/

def withHeap (s : Session) (heap : Heap) : Session := { s with tracker := { s.tracker with heap } }

def withCache (s : Session) (cache : WrapperCache) : Session :=
  { s with tracker := { s.tracker with cache } }

def create (s : Session) (describe : Nat → Entity) (fields : Fields) : Session :=
  let (handle, heap) := s.tracker.heap.newObject describe fields
  { s.withHeap heap with made := handle :: s.made }

def standIn (s : Session) (inner : Handle) : Session :=
  let (handle, heap) := s.tracker.heap.newStandIn inner
  { s.withHeap heap with made := handle :: s.made }

/-- The handle that a wrap gives back may be a new one.  The object was wrapped if it is a
wrapper. -/
def wrap (s : Session) (rules : TrackingRules) (h : Handle) : Session :=
  let o := s.tracker.wrap rules h
  match o.result with
  | .ok w =>
    { tracker := o.state, made := w :: s.made,
      ledger := if w.isWrapper then s.ledger.enter h.target.id else s.ledger }
  | .error _ => { s with tracker := o.state }

def assign (s : Session) (rules : TrackingRules) (h : Handle) (id : EntityId) : Session :=
  let o := s.tracker.assign rules h id
  match o.result with
  | .ok () => { s with tracker := o.state, ledger := s.ledger.record h.target.id id }
  | .error _ => { s with tracker := o.state }

/-- The slot of an object is set, not through the tracker. -/
def setSlot (s : Session) (slot : Nat) (object : Entity) (id : EntityId) : Session :=
  { s with
    tracker := (s.tracker.setSlot slot object.typeName id).1
    ledger := s.ledger.record object.id id }

/-- One operation.  Which rules and handles may be used with the tracker is left open.  A slot may be
set as long as somebody knows it, also when the wrapper that had it is gone. -/
inductive Step (permits : TrackingRules → Handle → Prop) : Session → Session → Prop
  | create {s : Session} {describe : Nat → Entity} {fields : Fields} :
    (describe s.tracker.heap.next).id = s.tracker.heap.next →
    (∀ e, s.Usable (.object e) → e.address ≠ (describe s.tracker.heap.next).address) →
    Step permits s (s.create describe fields)
  | standIn {s : Session} {h : Handle} : s.Usable h → Step permits s (s.standIn h)
  | wrap {s : Session} {rules : TrackingRules} {h : Handle} :
    s.Usable h → permits rules h → Step permits s (s.wrap rules h)
  | assign {s : Session} {rules : TrackingRules} {h : Handle} {id : EntityId} :
    s.Usable h → permits rules h → Step permits s (s.assign rules h id)
  | setSlot {s : Session} {n slot : Nat} {type : WrapperType} {inner : Handle} {id : EntityId} :
    .wrapper n type slot inner ∈ s.made → Step permits s (s.setSlot slot inner.target id)
  | setFields {s : Session} {e : Entity} {fields : Fields} :
    Step permits s (s.withHeap (s.tracker.heap.setFields e fields))
  | useCache {s : Session} {cache : WrapperCache} : Step permits s (s.withCache cache)
  | hold {s : Session} {h : Handle} :
    s.Usable h → Step permits s (s.withHeap (s.tracker.heap.retain h))
  | drop {s : Session} {h : Handle} : Step permits s (s.withHeap (s.tracker.heap.release h))

/-- Any number of operations. -/
abbrev Run (permits : TrackingRules → Handle → Prop) : Session → Session → Prop :=
  Relation.ReflTransGen (Step permits)

/-- The first object may be at any address. -/
theorem Step.first {permits : TrackingRules → Handle → Prop} {cache : WrapperCache}
    {describe : Nat → Entity} {fields : Fields} (numbered : (describe 0).id = 0) :
    Step permits (start cache) ((start cache).create describe fields) := by
  refine .create numbered fun e usable => ?_
  cases usable.1

/-- Without wrappers there are no slots. -/
theorem not_hasSlot_of_bare {s : Session} {e : Entity} {slot : Nat}
    (bare : ∀ w ∈ s.made, w.isWrapper = false) : ¬ s.HasSlot e slot := by
  intro has
  obtain ⟨n, type, inner, member, -⟩ := has
  cases bare _ member

theorem not_hasSlot_start {cache : WrapperCache} {e : Entity} {slot : Nat} :
    ¬ (start cache).HasSlot e slot :=
  not_hasSlot_of_bare fun _ member => by cases member

/-- Handles to the object itself or identity wrappers, for a type without an identity field. -/
def Plain (rules : TrackingRules) (h : Handle) : Prop :=
  (∃ info, rules.schema.classOf h = .ok info ∧ info.identityField = none) ∧
    ∀ n inner, h ≠ .standIn n inner

end Session

end ObjectGraph
