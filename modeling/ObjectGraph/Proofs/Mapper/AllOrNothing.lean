import ObjectGraph.Proofs.Mapper.Hydration

/-!
# Filling a field is all or nothing

A call that fills a collection field can fail at many places: the JSON value is nested, the class or
the field is unknown, the object is of another concrete type, the shape is not supported, a value
cannot be converted, the field cannot be written or its writer refuses.  All of them are found before
anything is stored.

* `Mapper.load_ends`: a call fails without a trace, or a merged container is written.
* `Mapper.load_all_or_nothing`: what a call leaves in the workspace, and what it does not touch.
-/

namespace ObjectGraph

/-- What is merged has the shape it is merged for. -/
theorem MergePolicy.hasShape_of_merge {r : MergePolicy} {shape : Shape} {element : ElementType}
    {new : Payload} {current : Option Container} {c : Container}
    (merged : r.merge shape element new current = .ok c) : c.hasShape shape = true := by
  by_cases map : shape = .map
  · rw [merge, if_pos map] at merged
    cases merged
  · obtain ⟨vs, -, done⟩ := exists_toValues_of_merge map merged
    exact hasShape_of_mergeValues map done

namespace Mapper

variable {m : Mapper} {w : Workspace} {h : Handle} {name : String}

/-- Without the field there is nothing to fill. -/
theorem load_of_collection_error {e : SchemaError} (missing : w.collection h name = .error e)
    (load : Load) :
    ∃ e', (m.load w h name load).result = .error e' ∧ (m.load w h name load).state = w := by
  have fails (new : Payload) : m.hydrate w h name new = .failed w (.schema e) := by
    unfold hydrate
    rw [missing]
  cases load with
  | payload new => exact ⟨.schema e, congrArg Outcome.result (fails new),
      congrArg Outcome.state (fails new)⟩
  | json new =>
    have loaded : m.load w h name (.json new) = m.hydrateJson w h name new := rfl
    rw [loaded, hydrateJson]
    cases Payload.ofJson new with
    | error nested => exact ⟨.merge nested, rfl, rfl⟩
    | ok payload => exact ⟨.schema e, congrArg Outcome.result (fails payload),
        congrArg Outcome.state (fails payload)⟩

/-- **How a call ends**: without a trace, or with a merged container that was written. -/
theorem load_ends (m : Mapper) (w : Workspace) (h : Handle) (name : String) (load : Load) :
    (∃ e, (m.load w h name load).result = .error e ∧ (m.load w h name load).state = w) ∨
    ∃ info field new c heap, w.schema.classOf h = .ok info ∧ info.collection name = .ok field ∧
      load.toPayload = .ok new ∧
      m.policy.merge field.shape field.element new (field.get (w.heap.fieldsOf h.target)) = .ok c ∧
      field.write w.heap h c = .ok heap ∧ (m.load w h name load).result = .ok c ∧
      (m.load w h name load).state = { w with heap } := by
  cases registered : w.schema.classOf h with
  | error e =>
    refine .inl (load_of_collection_error (e := e) ?_ load)
    unfold Workspace.collection
    rw [registered]
    rfl
  | ok info =>
    cases declared : info.collection name with
    | error e =>
      refine .inl (load_of_collection_error (e := e) ?_ load)
      unfold Workspace.collection
      rw [registered]
      dsimp only [bind, Except.bind]
      rw [declared]
    | ok field =>
      rcases load_cases (m := m) registered declared load with
        failed | ⟨c, heap, new, ok, state, read, merged, wrote⟩
      · exact .inl failed
      · exact .inr ⟨info, field, new, c, heap, rfl, declared, read, merged, wrote, ok, state⟩

/-- **Filling a field is all or nothing.**  Whatever the mapper and its coercion, the workspace, the
handle, the name and what the store gives: a call that ends with an error leaves the workspace as it
was.  A call that succeeds gives a container in the shape that the field declares and changes nothing
but the heap, so no class, no cache and no roster of any mapper.  If the field keeps to one place,
only what the object stores there is another.  Whoever reaches the object then reads from the field
the container that the call gave, through any handle. -/
theorem load_all_or_nothing (m : Mapper) (w : Workspace) (h : Handle) (name : String) (load : Load) :
    let o := m.load w h name load
    (∀ e, o.result = .error e → o.state = w) ∧
    ∀ c, o.result = .ok c → ∃ info field,
      w.schema.classOf h = .ok info ∧ info.collection name = .ok field ∧
      c.hasShape field.shape = true ∧ o.state = { w with heap := o.state.heap } ∧
      (∀ m' : Mapper, m'.tracker o.state = { m'.tracker w with heap := o.state.heap }) ∧
      ∀ place, field.StoresAt some place →
        w.heap.ChangedAt h.target place o.state.heap ∧
        (w.heap.Reached h.target.id → w.heap.isLive h.target.id = true →
          ∀ g : Handle, g.target = h.target → field.read o.state.heap g = .ok (some c)) := by
  intro o
  rcases m.load_ends w h name load with
    ⟨e, failed, state⟩ | ⟨info, field, new, c, heap, registered, declared, -, merged, wrote, ok, state⟩
  · refine ⟨fun _ _ => state, fun c success => ?_⟩
    rw [failed] at success
    cases success
  · refine ⟨fun e failed => ?_, fun c' success => ?_⟩
    · rw [ok] at failed
      cases failed
    · rw [ok] at success
      cases success
      have done : o.state = { w with heap } := state
      rw [done]
      refine ⟨info, field, registered, declared, MergePolicy.hasShape_of_merge merged, rfl,
        fun _ => rfl, fun place stores => ⟨stores.changedAt wrote, fun reached live g same => ?_⟩⟩
      exact stores.read_write wrote (FieldAccess.live_of_write wrote reached live) same

/-- Numbers that are texts are stored in a list of an object, through a stand-in of it.  A text that is
no number fails the whole call. -/
theorem load_all_or_nothing_standIn :
    let node : Entity := ⟨0, 16, "Node", "node", "#0", .identity⟩
    let marks := CollectionField.stored "Node" "marks" .vector .long
    let info : EntityClass := { typeName := "node", collections := ⟨[("marks", marks)]⟩ }
    let fields : Fields := { properties := ⟨[("marks", .string "none")]⟩ }
    let standIn := Handle.standIn 1 (.object node)
    let w : Workspace :=
      { heap :=
          { live := [⟨standIn, {}⟩, ⟨.object node, fields⟩], held := [standIn, .object node],
            next := 2 }
        schema := ⟨⟨[("node", info)]⟩⟩ }
    let given := Mapper.load { cache := 0 } w standIn "marks" (.payload (.strings ["7", "8"]))
    let refused :=
      Mapper.load { cache := 0 } w standIn "marks" (.json (.array [.string "7", .string "x"]))
    (∃ e, refused.result = .error e) ∧ refused.state = w ∧
      given.result = .ok (.list [.long 7, .long 8]) ∧
      marks.read given.state.heap (.object node) = .ok (some (.list [.long 7, .long 8])) ∧
      (given.state.heap.fieldsOf node).content (.property "marks") = some (.inl (.string "none")) := by
  intro node marks info fields standIn w given refused
  have failed : ∃ e, refused.result = .error e := ⟨_, rfl⟩
  have unchanged : refused.state = w := by
    obtain ⟨e, error⟩ := failed
    exact (load_all_or_nothing { cache := 0 } w standIn "marks" _).1 e error
  have success : given.result = .ok (.list [.long 7, .long 8]) := rfl
  have reached : w.heap.Reached node.id :=
    @Heap.Reached.held w.heap (.object node) (List.mem_cons_of_mem _ List.mem_cons_self)
  obtain ⟨-, found⟩ :=
    load_all_or_nothing { cache := 0 } w standIn "marks" (.payload (.strings ["7", "8"]))
  obtain ⟨info', field, registered, declared, -, -, -, places⟩ := found _ success
  cases registered
  cases declared
  obtain ⟨changed, reads⟩ := places _ CollectionField.stored_storesAt
  refine ⟨failed, unchanged, success, reads reached rfl _ rfl, ?_⟩
  have live : given.state.heap.isLive node.id = true :=
    changed.kept (.object node) (List.mem_cons_of_mem _ List.mem_cons_self) rfl
  exact changed.rest live (.property "marks") (by simp)

end Mapper

end ObjectGraph
