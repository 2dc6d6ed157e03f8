import ObjectGraph.Identity.WrapperCache
import ObjectGraph.Identity.Roster

/-!
# Tracking store identities

Objects whose class has an identity field hold their store identity in that field.  All others get
it through a wrapper, and a tracker keeps the identity slot of every object that it wrapped for as
long as the object lives.

* `Tracker.storeIdentity`, `Tracker.identityOrPlaceholder`: the identity of an object.
* `Tracker.assign`: records an identity.
* `Tracker.wrap`: a handle that can carry an identity.
-/

namespace ObjectGraph

/-- What a tracker consults: the registered classes and the coercion of identity fields. -/
structure TrackingRules where
  schema : Schema := {}
  coercion : Coercion := Coercion.standard

/-- A tracker with everything that its operations can change: the shared objects, the cache of
wrapper types, and the roster of the objects that it wrapped. -/
structure Tracker where
  heap : Heap := {}
  cache : WrapperCache := { capacity := defaultCapacity, capacity_pos := defaultCapacity_pos }
  roster : Roster := {}

namespace Tracker

def tracked (t : Tracker) : Nat := t.roster.size

/-- How a tracker with a cache and a number of entries describes itself. -/
def describeWith (cache : WrapperCache) (tracked : Nat) : String :=
  Text.record "IdentityTracker"
    [("cache", cache.describe), ("tracked_objects", toString tracked)]

def describe (t : Tracker) : String := describeWith t.cache t.tracked

/-! ## Reading identities -/

/-- The slot that holds the identity: that of the wrapper if the handle is one, or else that of the
object if it was ever wrapped. -/
def slot? (t : Tracker) (h : Handle) : Option Nat :=
  match h with
  | .wrapper _ _ slot _ => some slot
  | h => t.roster.slot? t.heap h.address

/-- The identity that the value of an identity field stands for. -/
def identityOfValue (rules : TrackingRules) (v : Value) : Except IdentityError (Option EntityId) :=
  if v.isNull then .ok none
  else match rules.coercion .long v with
  | .error e => .error (.coercion e)
  | .ok (.long raw) =>
    match EntityId.ofInt64 raw with
    | .ok id => .ok (some id)
    | .error e => .error (.domain e)
  | .ok .null => .ok none
  | .ok other => .error (.schema (.typeMismatch ElementType.long.name other.kind))

/-- The identity in the identity field of an object, if its class has one. -/
def fieldIdentity (t : Tracker) (rules : TrackingRules) (h : Handle) :
    Except IdentityError (Option EntityId) :=
  match rules.schema.classOf h with
  | .error e => .error (.schema e)
  | .ok info =>
    match info.identityField with
    | none => .ok none
    | some field =>
      match field.read t.heap h with
      | .error e => .error (.schema e)
      | .ok v => identityOfValue rules v

/-- The store identity of an object, if it has one. -/
def storeIdentity (t : Tracker) (rules : TrackingRules) (h : Handle) :
    Except IdentityError (Option EntityId) :=
  match t.slot? h with
  | some slot => .ok (t.heap.slots.get slot)
  | none => t.fieldIdentity rules h

/-- The store identity of an object, or its placeholder if it has none. -/
def identityOrPlaceholder (t : Tracker) (rules : TrackingRules) (h : Handle) :
    Except IdentityError Int64 :=
  (t.storeIdentity rules h).map fun id? => (id?.map EntityId.raw).getD h.placeholder

/-! ## Recording identities -/

def setSlot (t : Tracker) (slot : Nat) (typeName : String) (id : EntityId) :
    Tracker × List Event :=
  let (slots, events) := t.heap.slots.assign slot typeName id
  ({ t with heap := { t.heap with slots } }, events)

/-- Writes an identity to the identity field of an object. -/
def assignField (t : Tracker) (rules : TrackingRules) (h : Handle) (id : EntityId) :
    Outcome Tracker IdentityError Unit :=
  match rules.schema.classOf h with
  | .error e => .failed t (.schema e)
  | .ok info =>
    match info.identityField with
    | none => .failed t (.schema (.noIdentityField info.typeName))
    | some field =>
      match rules.coercion field.element (.long id.raw) with
      | .error e => .failed t (.coercion e)
      | .ok v =>
        match field.write t.heap h v with
        | .error e => .failed t (.schema e)
        | .ok heap =>
          ⟨.ok (), { t with heap }, [.identityAssigned info.typeName field.name id.text]⟩

/-- Records the store identity of an object: in its slot if it has one, and else in its identity
field. -/
def assign (t : Tracker) (rules : TrackingRules) (h : Handle) (id : EntityId) :
    Outcome Tracker IdentityError Unit :=
  match t.slot? h with
  | some slot =>
    let (t, events) := t.setSlot slot h.typeName id
    ⟨.ok (), t, events ++ [.identityStored h.typeName id.text]⟩
  | none => t.assignField rules h id

/-! ## Wrapping -/

/-- The slot for a new wrapper of an object: the one that it has, or else a new one. -/
def slotFor (t : Tracker) (h : Handle) : Nat × Tracker :=
  match t.roster.slot? t.heap h.address with
  | some slot => (slot, t)
  | none =>
    let (slot, slots) := t.heap.slots.fresh
    (slot, { t with heap := { t.heap with slots } })

/-- Makes a wrapper of a type for what a handle reaches, and enters it into the roster. -/
def newWrapper (t : Tracker) (h : Handle) (type : WrapperType) : Handle × Tracker × List Event :=
  let (slot, t) := t.slotFor h
  let (wrapper, heap) := t.heap.newWrapper type slot h
  let (roster, events) :=
    (t.roster.put ⟨h.address, h.allocation, slot, wrapper⟩).prune heap
  (wrapper, { t with heap, roster }, events)

def share (t : Tracker) (h : Handle) : Outcome Tracker IdentityError Handle :=
  .pure { t with heap := t.heap.retain h } h

/-- A handle that can carry the identity of an object.  A wrapper, and an object whose class has an
identity field, is given back as it is; an object that has a live wrapper gets that; every other
object gets a new one.  The handle is held by whoever asked. -/
def wrap (t : Tracker) (rules : TrackingRules) (h : Handle) :
    Outcome Tracker IdentityError Handle :=
  if h.isWrapper then t.share h
  else match rules.schema.classOf h with
  | .error e => .failed t (.schema e)
  | .ok info =>
    if info.holdsIdentity then t.share h
    else match t.roster.wrapper? t.heap h.address with
    | some wrapper => t.share wrapper
    | none =>
      let o := t.cache.getOrBuild info.typeName (WrapperCache.building info)
      let t := { t with cache := o.state }
      match o.result with
      | .error e => ⟨.error e, t, o.events⟩
      | .ok type =>
        let (wrapper, t, events) := t.newWrapper h type
        ⟨.ok wrapper, t, o.events ++ events ++ [.entityWrapped info.typeName type.name]⟩

end Tracker

end ObjectGraph
