import ObjectGraph.Mapper
import ObjectGraph.Proofs.Heap.Written
import ObjectGraph.Proofs.Merge.Loads

/-!
# Filling a field again and again

A collection field of one object is filled by any sequence of calls, with payloads or JSON values,
through the object itself or through stand-ins.  `Hydration.run` makes the calls and notes what each
that succeeds has loaded.  What is noted is not forgotten, so that an object that a call brought is
there to be compared with those of later calls.

* `Mapper.hydrate_cases`: a call fails without a trace, or merges and stores.
* `Mapper.exists_brought`: a call that succeeds has brought values, coerced once.
* `Hydration.run_holds`: after any calls the field holds what was brought, nothing lost and nothing
  invented.
-/

namespace ObjectGraph

/-- What the store gives in one call. -/
inductive Load where
  | payload (new : Payload)
  | json (new : Json.Value)

def Load.toPayload : Load → Except MergeError Payload
  | .payload new => .ok new
  | .json new => Payload.ofJson new

namespace Mapper

variable {m : Mapper} {w : Workspace} {h : Handle} {name : String} {info : EntityClass}
  {field : CollectionField}

/-- Fills a field with what the store gives. -/
def load (m : Mapper) (w : Workspace) (h : Handle) (name : String) :
    Load → Outcome Workspace MapperError Container
  | .payload new => m.hydrate w h name new
  | .json new => m.hydrateJson w h name new

/-- The values that a load brings, in the declared type. -/
def brought (m : Mapper) (element : ElementType) (load : Load) : Except MergeError (List Value) := do
  let new ← load.toPayload
  let vs ← new.toValues element
  m.policy.convertAll element vs

theorem brought_eq {element : ElementType} {load : Load} {new : Payload} {vs : List Value}
    (read : load.toPayload = .ok new) (values : new.toValues element = .ok vs) :
    m.brought element load = m.policy.convertAll element vs := by
  unfold brought
  rw [read]
  dsimp only [bind, Except.bind]
  rw [values]

/-! ## One call -/

theorem collection_eq (registered : w.schema.classOf h = .ok info)
    (declared : info.collection name = .ok field) :
    w.collection h name = (field.read w.heap h).map fun current => (field, current) := by
  unfold Workspace.collection
  rw [registered]
  dsimp only [bind, Except.bind]
  rw [declared]
  dsimp only
  cases field.read w.heap h with
  | error e => rfl
  | ok current => rfl

/-- A call fails without a trace, or it merges into what the field holds and stores the result. -/
theorem hydrate_cases (registered : w.schema.classOf h = .ok info)
    (declared : info.collection name = .ok field) (new : Payload) :
    (∃ e, (m.hydrate w h name new).result = .error e ∧ (m.hydrate w h name new).state = w) ∨
    ∃ c heap, (m.hydrate w h name new).result = .ok c ∧
      (m.hydrate w h name new).state = { w with heap } ∧
      m.policy.merge field.shape field.element new (field.get (w.heap.fieldsOf h.target)) = .ok c ∧
      field.write w.heap h c = .ok heap := by
  unfold hydrate
  rw [collection_eq registered declared]
  cases read : field.read w.heap h with
  | error e => exact .inl ⟨_, rfl, rfl⟩
  | ok current =>
    obtain ⟨-, rfl⟩ := FieldAccess.read_eq_ok_iff.1 read
    dsimp only [Except.map]
    cases merged : m.policy.merge field.shape field.element new
        (field.get (w.heap.fieldsOf h.target)) with
    | error e => exact .inl ⟨_, rfl, rfl⟩
    | ok c =>
      dsimp only
      cases written : field.write w.heap h c with
      | error e => exact .inl ⟨_, rfl, rfl⟩
      | ok heap => exact .inr ⟨c, heap, rfl, rfl, rfl, written⟩

theorem load_cases (registered : w.schema.classOf h = .ok info)
    (declared : info.collection name = .ok field) (load : Load) :
    (∃ e, (m.load w h name load).result = .error e ∧ (m.load w h name load).state = w) ∨
    ∃ c heap new, (m.load w h name load).result = .ok c ∧
      (m.load w h name load).state = { w with heap } ∧ load.toPayload = .ok new ∧
      m.policy.merge field.shape field.element new (field.get (w.heap.fieldsOf h.target)) = .ok c ∧
      field.write w.heap h c = .ok heap := by
  cases load with
  | payload new =>
    rcases hydrate_cases (m := m) registered declared new with failed | ⟨c, heap, ok, state, done⟩
    · exact .inl failed
    · exact .inr ⟨c, heap, new, ok, state, rfl, done⟩
  | json new =>
    have loaded : m.load w h name (.json new) = m.hydrateJson w h name new := rfl
    rw [loaded, hydrateJson]
    cases read : Payload.ofJson new with
    | error e => exact .inl ⟨_, rfl, rfl⟩
    | ok payload =>
      rcases hydrate_cases (m := m) registered declared payload with
        failed | ⟨c, heap, ok, state, done⟩
      · exact .inl failed
      · exact .inr ⟨c, heap, payload, ok, state, read, done⟩

/-- What a list of loads brings, a batch of values for each. -/
def Brings (m : Mapper) (element : ElementType) (loads : List Load) (batches : List (List Value)) :
    Prop :=
  List.Forall₂ (fun load batch => m.brought element load = .ok batch) loads batches

/-- Whatever loads was converted. -/
theorem exists_brought (registered : w.schema.classOf h = .ok info)
    (declared : info.collection name = .ok field) (supported : field.shape ≠ .map) {load : Load}
    {c : Container} (loaded : (m.load w h name load).result = .ok c) :
    ∃ batch, m.brought field.element load = .ok batch := by
  rcases load_cases (m := m) registered declared load with
    ⟨error, failed, -⟩ | ⟨c, heap, new, -, -, read, merge, -⟩
  · rw [failed] at loaded
    cases loaded
  · obtain ⟨vs, values, merged⟩ := MergePolicy.exists_toValues_of_merge supported merge
    rw [brought_eq read values]
    by_cases none_new : vs = []
    · subst none_new
      exact ⟨[], rfl⟩
    · have accepted := ((MergePolicy.mergeValues_eq_ok_iff none_new).1 merged).1
      have converted := MergePolicy.convertAll_eq_ok_iff.2
        ⟨fun v hv => accepted v (List.mem_append_right _ hv), rfl⟩
      exact ⟨_, converted⟩

end Mapper

/-! ## Any number of calls -/

/-- One call: the handle that it is made through, and what is loaded. -/
structure HydrationCall where
  handle : Handle
  load : Load

/-- The workspace after some calls, and what the successful ones have loaded. -/
structure Hydration where
  workspace : Workspace
  loads : List Load := []

namespace Hydration

def call (m : Mapper) (name : String) (s : Hydration) (call : HydrationCall) : Hydration :=
  let o := m.load s.workspace call.handle name call.load
  match o.result with
  | .ok _ => ⟨o.state, s.loads ++ [call.load]⟩
  | .error _ => { s with workspace := o.state }

def run (m : Mapper) (name : String) (w : Workspace) (calls : List HydrationCall) : Hydration :=
  calls.foldl (Hydration.call m name) { workspace := w }

/-- The field stores what it is given, if its writer accepts it. -/
def Stores (field : CollectionField) : Prop :=
  ∀ set, field.set? = some set → ∀ fields c fields', set fields c = .ok fields' →
    field.get fields' = some c

/-- What holds between the calls: the object is there, and its field holds what the successful ones
have brought. -/
structure Sound (m : Mapper) (o : Objects) (schema : Schema) (e : Entity) (field : CollectionField)
    (s : Hydration) : Prop where
  schema : s.workspace.schema = schema
  reached : s.workspace.heap.Reached e.id
  live : s.workspace.heap.isLive e.id = true
  holds : ∃ batches, m.Brings field.element s.loads batches ∧
    m.policy.Holds o field.shape field.element (field.get (s.workspace.heap.fieldsOf e)) batches

variable {m : Mapper} {o : Objects} {schema : Schema} {e : Entity} {name : String}
  {info : EntityClass} {field : CollectionField} {s : Hydration}

/-- A call keeps the invariant, whether it succeeds or not. -/
theorem Sound.call (sound : Sound m o schema e field s) (standard : m.coercion = Coercion.standard)
    (registered : schema.classNamed e.typeName = .ok info)
    (declared : info.collection name = .ok field) (supported : field.shape ≠ .map)
    (one : field.shape = .sortedSet → o.OneKey) (stores : Stores field) {c : HydrationCall}
    (reaches : c.handle.target = e)
    (admitted : ∀ batch, m.brought field.element c.load = .ok batch → ∀ v ∈ batch, o.Admits v) :
    Sound m o schema e field (Hydration.call m name s c) := by
  have classOf : s.workspace.schema.classOf c.handle = .ok info := by
    rw [sound.schema, Schema.classOf, Handle.typeName, reaches]
    exact registered
  have steady : m.policy.coercion.Steady := by
    rw [Mapper.policy, standard]
    exact Coercion.standard_steady
  unfold Hydration.call
  dsimp only
  rcases Mapper.load_cases (m := m) classOf declared c.load with
    ⟨error, failed, unchanged⟩ | ⟨merged, heap, new, ok, state, read, merge, write⟩
  · rw [failed, unchanged]
    exact sound
  · obtain ⟨batch, brought⟩ := Mapper.exists_brought classOf declared supported ok
    obtain ⟨vs, values, done⟩ := MergePolicy.exists_toValues_of_merge supported merge
    obtain ⟨set, fields, writable, -, written, rfl⟩ := FieldAccess.write_eq_ok_iff.1 write
    rw [reaches] at done written state
    have converted : m.policy.convertAll field.element vs = .ok batch :=
      (Mapper.brought_eq read values).symm.trans brought
    obtain ⟨batches, brings, holds⟩ := sound.holds
    obtain ⟨reached, live, stored⟩ :=
      Heap.setFields_of_reached sound.reached sound.live fields
    rw [ok, state]
    refine ⟨sound.schema, reached, live, batches ++ [batch], ?_, ?_⟩
    · exact List.rel_append brings (.cons brought .nil)
    · show m.policy.Holds o field.shape field.element
        (field.get ((s.workspace.heap.setFields e fields).fieldsOf e)) (batches ++ [batch])
      rw [stored, stores set writable _ _ _ written]
      exact holds.merge steady supported one converted (admitted batch brought) done

theorem Sound.run {w : Workspace} (sound : Sound m o schema e field { workspace := w })
    (standard : m.coercion = Coercion.standard)
    (registered : schema.classNamed e.typeName = .ok info)
    (declared : info.collection name = .ok field) (supported : field.shape ≠ .map)
    (one : field.shape = .sortedSet → o.OneKey) (stores : Stores field)
    {calls : List HydrationCall} (reaches : ∀ c ∈ calls, c.handle.target = e)
    (admitted : ∀ c ∈ calls, ∀ batch, m.brought field.element c.load = .ok batch →
      ∀ v ∈ batch, o.Admits v) :
    Sound m o schema e field (Hydration.run m name w calls) := by
  induction calls using List.reverseRecOn with
  | nil => exact sound
  | append_singleton calls c ih =>
    have before (d : HydrationCall) (hd : d ∈ calls) : d ∈ calls ++ [c] :=
      List.mem_append_left _ hd
    have last : c ∈ calls ++ [c] := List.mem_append_right _ List.mem_cons_self
    have held := ih (fun d hd => reaches d (before d hd)) fun d hd => admitted d (before d hd)
    unfold Hydration.run
    rw [List.foldl_append]
    exact held.call standard registered declared supported one stores (reaches c last)
      (admitted c last)

end Hydration

end ObjectGraph
