import ObjectGraph.Heap

/-!
# The roster of wrapped objects

For every object that was wrapped the roster knows its identity slot and its last wrapper, by the
address of the object.  It keeps nothing alive: an entry counts only while the allocation that was
wrapped lives, and entries of dead ones are removed when there are many.

* `Roster.entry?`: the entry of a live object.
* `Roster.prune`: the roster without dead entries, if it is time to remove them.
-/

namespace ObjectGraph

/-- An entry of the roster. -/
structure RosterEntry where
  /-- The address of the object. -/
  address : UInt64
  /-- The allocation that was wrapped, without keeping it alive. -/
  allocation : Nat
  slot : Nat
  /-- The wrapper, without keeping it alive. -/
  wrapper : Handle
  deriving DecidableEq, Repr

def RosterEntry.isLive (t : RosterEntry) (heap : Heap) : Bool := heap.isLive t.allocation

/-- The entries, one for an address, and the number of entries at which dead ones are removed. -/
structure Roster where
  entries : List RosterEntry := []
  pruneAt : Nat := 0
  deriving DecidableEq, Repr

namespace Roster

/-- The roster is never pruned below this number of entries. -/
def pruneThreshold : Nat := 64

def size (r : Roster) : Nat := r.entries.length

def entry? (r : Roster) (heap : Heap) (address : UInt64) : Option RosterEntry :=
  (r.entries.find? fun t => t.address == address).filter fun t => t.isLive heap

/-- The identity slot of a live object, if it was ever wrapped. -/
def slot? (r : Roster) (heap : Heap) (address : UInt64) : Option Nat :=
  (r.entry? heap address).map RosterEntry.slot

/-- The wrapper of a live object, if that is alive. -/
def wrapper? (r : Roster) (heap : Heap) (address : UInt64) : Option Handle :=
  (r.entry? heap address).bind fun t =>
    if heap.isLive t.wrapper.allocation then some t.wrapper else none

/-- Puts an entry in the place of the one for the same address. -/
def put (r : Roster) (t : RosterEntry) : Roster :=
  { r with entries := t :: r.entries.filter fun e => e.address != t.address }

/-- Removes the dead entries if there are many entries.  The next time is when twice as many as are
left have gathered. -/
def prune (r : Roster) (heap : Heap) : Roster × List Event :=
  if r.size < max r.pruneAt pruneThreshold then (r, [])
  else
    let left := r.entries.filter fun t => t.isLive heap
    (⟨left, left.length * 2⟩, [.rosterPruned r.size left.length])

end Roster

end ObjectGraph
