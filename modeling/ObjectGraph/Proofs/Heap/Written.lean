import ObjectGraph.Proofs.Heap.Collect
import ObjectGraph.Schema.Field

/-!
# What a write leaves alone

An object stores properties and collections, each under a name.  How a field reads and writes them is
up to the field; `FieldAccess.StoresAt` says that it reads back what it writes and keeps to one place.
A write of such a field changes what one object stores at one place, and nothing else in the heap.

* `FieldAccess.write_eq_ok_iff`: when a write succeeds, and what it leaves.
* `FieldAccess.StoresAt.changedAt`: all that a successful write changes.
* `FieldAccess.Stores.read_write`: what is read after it, through any handle to the object.
-/

namespace ObjectGraph

/-! ## Places -/

/-- A place in an object where something is stored. -/
inductive FieldPlace where
  | property (name : String)
  | collection (name : String)

/-- What is stored at a place. -/
def Fields.content (f : Fields) : FieldPlace → Option (Value ⊕ Container)
  | .property name => (f.properties.find? name).map .inl
  | .collection name => (f.collections.find? name).map .inr

/-- Only what is stored at one place of one object is another.  Objects may have died, but none that
is held outside. -/
structure Heap.ChangedAt (before : Heap) (e : Entity) (place : FieldPlace) (after : Heap) : Prop where
  slots : after.slots = before.slots
  held : after.held = before.held
  next : after.next = before.next
  lives : ∀ n, after.isLive n = true → before.isLive n = true
  kept : ∀ h ∈ before.held, before.isLive h.allocation = true → after.isLive h.allocation = true
  others : ∀ d, d.id ≠ e.id → after.isLive d.id = true → after.fieldsOf d = before.fieldsOf d
  rest : after.isLive e.id = true → ∀ other, other ≠ place →
    (after.fieldsOf e).content other = (before.fieldsOf e).content other

namespace FieldAccess

variable {ρ ω : Type} {a : FieldAccess ρ ω} {heap heap' : Heap} {g h : Handle} {v : ω} {x : ρ}
  {view : ω → ρ} {place : FieldPlace}

/-- What a write of the field stores is read back, seen as reading shows it. -/
structure Stores (a : FieldAccess ρ ω) (view : ω → ρ) : Prop where
  reads : ∀ set, a.set? = some set → ∀ fields v fields', set fields v = .ok fields' →
    a.get fields' = view v

/-- What is more, a write of the field changes what is stored at one place only. -/
structure StoresAt (a : FieldAccess ρ ω) (view : ω → ρ) (place : FieldPlace) : Prop
    extends Stores a view where
  leaves : ∀ set, a.set? = some set → ∀ fields v fields', set fields v = .ok fields' →
    ∀ other, other ≠ place → fields'.content other = fields.content other

/-! ## Reading and writing -/

theorem read_eq_ok_iff :
    a.read heap h = .ok x ↔ h.target.host = a.host ∧ x = a.get (heap.fieldsOf h.target) := by
  unfold read
  split
  · next same => simp [same, eq_comm]
  · next other => simp [other]

theorem write_eq_ok_iff : a.write heap h v = .ok heap' ↔ ∃ set fields, a.set? = some set ∧
    h.target.host = a.host ∧ set (heap.fieldsOf h.target) v = .ok fields ∧
    heap' = heap.setFields h.target fields := by
  unfold write
  cases a.set? with
  | none => simp
  | some set =>
    dsimp only
    split
    · next same =>
      cases done : set (heap.fieldsOf h.target) v with
      | error e => simp [done]
      | ok fields => simp [same, done, eq_comm]
    · next other => simp [other]

/-- **A field that keeps to its place changes nothing else.** -/
theorem StoresAt.changedAt (stores : a.StoresAt view place) (written : a.write heap h v = .ok heap') :
    heap.ChangedAt h.target place heap' := by
  obtain ⟨set, fields, writable, -, done, rfl⟩ := write_eq_ok_iff.1 written
  refine ⟨Heap.slots_collect, Heap.held_collect, Heap.next_collect,
    fun n => Heap.isLive_of_setFields, fun k holds live => ?_,
    fun d other => Heap.fieldsOf_setFields_of_ne other, fun live other elsewhere => ?_⟩
  · obtain ⟨b, found, same⟩ := Heap.isLive_iff.1 live
    have id : (b.withFields h.target fields).id = k.allocation := b.id_withFields.trans same
    have reached : (heap.put h.target fields).Reached (b.withFields h.target fields).id := by
      rw [id]
      exact .held holds
    exact Heap.isLive_iff.2 ⟨_, (reached.collect (List.mem_map_of_mem found)).2, id⟩
  · rw [Heap.fieldsOf_setFields_self live]
    exact stores.leaves set writable _ _ _ done other elsewhere

/-- **What was written is read**, as long as the object lives. -/
theorem Stores.read_write (stores : a.Stores view) (written : a.write heap h v = .ok heap')
    (live : heap'.isLive h.target.id = true) (same : g.target = h.target) :
    a.read heap' g = .ok (view v) := by
  obtain ⟨set, fields, writable, host, done, rfl⟩ := write_eq_ok_iff.1 written
  rw [read_eq_ok_iff, same, Heap.fieldsOf_setFields_self live]
  exact ⟨host, (stores.reads set writable _ _ _ done).symm⟩

/-- Whoever reaches an object still does so after a write. -/
theorem live_of_write (written : a.write heap h v = .ok heap') (reached : heap.Reached h.target.id)
    (live : heap.isLive h.target.id = true) : heap'.isLive h.target.id = true := by
  obtain ⟨set, fields, -, -, -, rfl⟩ := write_eq_ok_iff.1 written
  exact (Heap.setFields_of_reached reached live fields).2.1

end FieldAccess

/-! ## Fields that are stored under their own names -/

variable {host name : String} {element : ElementType} {shape : Shape}

theorem PropertyField.stored_storesAt :
    (PropertyField.stored host name element).StoresAt id (.property name) where
  reads set writable fields v fields' done := by
    cases writable
    cases done
    simp [stored, NameMap.find?_insert]
  leaves set writable fields v fields' done other elsewhere := by
    cases writable
    cases done
    cases other with
    | property key =>
      have different : key ≠ name := fun same => elsewhere (congrArg FieldPlace.property same)
      simp [Fields.content, NameMap.find?_insert, different]
    | collection key => rfl

theorem CollectionField.stored_storesAt :
    (CollectionField.stored host name shape element).StoresAt some (.collection name) where
  reads set writable fields v fields' done := by
    cases writable
    cases done
    simp [stored, NameMap.find?_insert]
  leaves set writable fields v fields' done other elsewhere := by
    cases writable
    cases done
    cases other with
    | property key => rfl
    | collection key =>
      have different : key ≠ name := fun same => elsewhere (congrArg FieldPlace.collection same)
      simp [Fields.content, NameMap.find?_insert, different]

end ObjectGraph
