import ObjectGraph.Event
import ObjectGraph.Identity.EntityId
import ObjectGraph.Text

/-!
# Identity slots

A slot holds the store identity of an object that cannot hold it itself.  Slots are numbered, and
whoever knows the number shares the slot.

* `Slots.get_set`: what a slot holds after another was set.
-/

namespace ObjectGraph

/-- All slots, by their numbers. -/
structure Slots where
  cells : List (Option EntityId) := []
  deriving DecidableEq, Repr

namespace Slots

def get (s : Slots) (slot : Nat) : Option EntityId := (s.cells[slot]?).join

def fresh (s : Slots) : Nat × Slots := (s.cells.length, ⟨s.cells ++ [none]⟩)

/-- The slots with an identity put into one of them. -/
def set (s : Slots) (slot : Nat) (id : EntityId) : Slots := ⟨s.cells.set slot (some id)⟩

/-- Puts an identity into the slot of an object.  Replacing a different one is reported. -/
def assign (s : Slots) (slot : Nat) (typeName : String) (id : EntityId) : Slots × List Event :=
  let events := match s.get slot with
    | some previous =>
      if previous = id then [] else [.identityReassigned typeName previous.text id.text]
    | none => []
  (s.set slot id, events)

def describe (s : Slots) (slot : Nat) : String :=
  Text.tagged "IdentitySlot" (Text.optional ((s.get slot).map EntityId.describe))

/-- A slot that was set holds what it was set to, and the others hold what they held. -/
theorem get_set (s : Slots) (slot other : Nat) (id : EntityId) (h : slot < s.cells.length) :
    (s.set slot id).get other = if other = slot then some id else s.get other := by
  by_cases ho : other = slot
  · subst ho
    simp [get, set, h]
  · simp [get, set, ho, Ne.symm ho]

/-- A new slot is empty, and the others hold what they held. -/
theorem get_fresh (s : Slots) (other : Nat) : s.fresh.2.get other = s.get other := by
  rcases Nat.lt_or_ge other s.cells.length with h | h
  · rw [get, get, fresh, List.getElem?_append_left h]
  · rw [get, get, fresh, List.getElem?_append_right h, List.getElem?_eq_none h]
    cases other - s.cells.length <;> rfl

end Slots

end ObjectGraph
