import ObjectGraph.Container
import ObjectGraph.Identity.Slot
import ObjectGraph.NameMap

/-!
# Shared objects

The objects and stand-ins that are alive, the fields of the objects, and the references to them.
An allocation lives as long as something refers to it: a reference held outside, a field of a live
object, or a live stand-in.  Objects that refer to one another in a circle therefore stay alive.

* `Heap.release`: gives up a reference, after which everything that nothing refers to is gone.
* `Heap.isLive`: whether an allocation is alive, which is all that a weak reference can ask.
-/

namespace ObjectGraph

/-- The fields of a domain object. -/
structure Fields where
  properties : NameMap Value := {}
  collections : NameMap Container := {}

def Value.handle? : Value → Option Handle
  | .entity h => some h
  | _ => none

def Container.handles (c : Container) : List Handle := c.values.filterMap Value.handle?

def Fields.handles (f : Fields) : List Handle :=
  f.properties.values.filterMap Value.handle? ++ f.collections.values.flatMap Container.handles

/-- A live allocation: the handle that points right at it, and the fields if it is an object. -/
structure Allocation where
  handle : Handle
  fields : Fields := {}

namespace Allocation

def id (a : Allocation) : Nat := a.handle.allocation

def references (a : Allocation) : List Nat :=
  match a.handle.inner? with
  | some inner => [inner.allocation]
  | none => a.fields.handles.map Handle.allocation

end Allocation

/-- The live allocations, the references held outside, and the identity slots. -/
structure Heap where
  live : List Allocation := []
  /-- The references held outside, as often as they are held. -/
  held : List Handle := []
  slots : Slots := {}
  /-- The number of the next allocation. -/
  next : Nat := 0

namespace Heap

/-! ## Life and death -/

def references (h : Heap) : List Nat :=
  h.held.map Handle.allocation ++ h.live.flatMap Allocation.references

/-- The heap without the allocations that nothing refers to. -/
def sweep (h : Heap) : Heap :=
  let references := h.references
  { h with live := h.live.filter fun a => references.contains a.id }

def collect (h : Heap) : Heap :=
  if h.sweep.live.length < h.live.length then h.sweep.collect else h
termination_by h.live.length

def isLive (h : Heap) (id : Nat) : Bool := h.live.any fun a => a.id == id

def retain (h : Heap) (handle : Handle) : Heap := { h with held := handle :: h.held }

def release (h : Heap) (handle : Handle) : Heap :=
  { h with held := h.held.erase handle }.collect

/-! ## New allocations

The reference to a new allocation is held outside. -/

def newObject (h : Heap) (describe : Nat → Entity) (fields : Fields) : Handle × Heap :=
  let handle := Handle.object (describe h.next)
  (handle, { h with
    live := ⟨handle, fields⟩ :: h.live, held := handle :: h.held, next := h.next + 1 })

def newStandIn (h : Heap) (inner : Handle) : Handle × Heap :=
  let handle := Handle.standIn h.next inner
  (handle, { h with live := ⟨handle, {}⟩ :: h.live, held := handle :: h.held, next := h.next + 1 })

def newWrapper (h : Heap) (type : WrapperType) (slot : Nat) (inner : Handle) : Handle × Heap :=
  let handle := Handle.wrapper h.next type slot inner
  (handle, { h with live := ⟨handle, {}⟩ :: h.live, held := handle :: h.held, next := h.next + 1 })

/-! ## Fields -/

def fieldsOf (h : Heap) (entity : Entity) : Fields :=
  ((h.live.find? fun a => a.id == entity.id).map Allocation.fields).getD {}

/-- Replaces the fields of an object.  What only the old ones referred to is gone. -/
def setFields (h : Heap) (entity : Entity) (fields : Fields) : Heap :=
  let put (a : Allocation) : Allocation := if a.id == entity.id then { a with fields } else a
  { h with live := h.live.map put }.collect

end Heap

end ObjectGraph
