import ObjectGraph.Merge
import ObjectGraph.Proofs.Value.Ascending

/-!
# The branches of a merge

A merge either reshapes what is there, or coerces values and puts them in order.  This module says
for each branch when it succeeds and which values the container then holds.

`Shape.arrange` is the order in which a container of a shape holds the values it is built from, and
`MergePolicy.coerced` the coercion as a function on values; nothing else of the branches is needed
after this module.
-/

namespace ObjectGraph

/-- The values that a container of the shape holds if it is built from a list. -/
def Shape.arrange : Shape → List Value → List Value
  | .sortedSet => Value.sortDistinct
  | .set | .iterable => Value.firstOccurrences
  | _ => id

/-- The values that are there already. -/
def Container.heldBy (current : Option Container) : List Value :=
  (current.map Container.values).getD []

@[simp] theorem Container.heldBy_none : heldBy none = [] := rfl

@[simp] theorem Container.heldBy_some (c : Container) : heldBy (some c) = c.values := rfl

theorem Shape.mem_of_mem_arrange {shape : Shape} {vs : List Value} {v : Value}
    (member : v ∈ shape.arrange vs) : v ∈ vs := by
  cases shape with
  | sortedSet => exact Value.mem_of_mem_sortDistinct member
  | set => exact Value.mem_of_mem_firstOccurrences member
  | iterable => exact Value.mem_of_mem_firstOccurrences member
  | _ => exact member

namespace MergePolicy

variable {r : MergePolicy} {shape : Shape} {element : ElementType}

/-! ## Building a container -/

theorem exists_containerOf (supported : shape ≠ .map) (vs : List Value) :
    ∃ c, containerOf shape vs = .ok c ∧ c.hasShape shape = true ∧ c.values = shape.arrange vs := by
  cases shape with
  | map => exact absurd rfl supported
  | set => exact ⟨_, rfl, rfl, InsertionSet.items_ofList vs⟩
  | iterable => exact ⟨_, rfl, rfl, InsertionSet.items_ofList vs⟩
  | _ => exact ⟨_, rfl, rfl, rfl⟩

theorem values_of_containerOf (supported : shape ≠ .map) {vs : List Value} {c : Container}
    (built : containerOf shape vs = .ok c) :
    c.hasShape shape = true ∧ c.values = shape.arrange vs := by
  obtain ⟨d, found, shaped, values⟩ := exists_containerOf supported vs
  rw [found] at built
  cases built
  exact ⟨shaped, values⟩

/-! ## Coercing values -/

/-- Whether the coercion converts the value. -/
def Accepts (r : MergePolicy) (element : ElementType) (v : Value) : Prop :=
  ∃ w, r.coercion element v = .ok w

/-- The converted value; one that is refused stays what it is. -/
def coerced (r : MergePolicy) (element : ElementType) (v : Value) : Value :=
  match r.coercion element v with
  | .ok w => w
  | .error _ => v

theorem coerced_of_ok {v w : Value} (converted : r.coercion element v = .ok w) :
    r.coerced element v = w := by
  rw [coerced, converted]

/-- Values that the coercion leaves alone stay. -/
theorem map_coerced_of_settled {vs : List Value} (settled : ∀ v ∈ vs, r.coercion element v = .ok v) :
    vs.map (r.coerced element) = vs := by
  rw [List.map_congr_left fun v member => coerced_of_ok (settled v member), List.map_id']

theorem Accepts.coercion_eq {v : Value} (accepted : r.Accepts element v) :
    r.coercion element v = .ok (r.coerced element v) := by
  obtain ⟨w, converted⟩ := accepted
  rw [coerced_of_ok converted, converted]

theorem not_accepts_of_error {v : Value} {e : Refusal} (refused : r.coercion element v = .error e) :
    ¬ r.Accepts element v := by
  intro taken
  rcases taken with ⟨w, accepted⟩
  rw [refused] at accepted
  cases accepted

/-- All values are converted if each is. -/
theorem convertAll_eq_ok_iff {vs ws : List Value} :
    r.convertAll element vs = .ok ws ↔
      (∀ v ∈ vs, r.Accepts element v) ∧ ws = vs.map (r.coerced element) := by
  induction vs generalizing ws with
  | nil => simp [convertAll, eq_comm]
  | cons v vs ih =>
    rw [convertAll, List.forall_mem_cons, List.map_cons]
    cases converted : r.coercion element v with
    | error e => simp [not_accepts_of_error converted]
    | ok w =>
      have accepted : r.Accepts element v := ⟨w, converted⟩
      rw [coerced_of_ok converted]
      cases rest : r.convertAll element vs with
      | error e =>
        have refused : ¬ ∀ u ∈ vs, r.Accepts element u := fun all => by
          rw [ih.2 ⟨all, rfl⟩] at rest
          cases rest
        simp [refused]
      | ok us =>
        obtain ⟨all, rfl⟩ := ih.1 rest
        simp only [Except.ok.injEq, accepted, true_and]
        exact ⟨fun same => ⟨all, same.symm⟩, fun same => same.2.symm⟩

theorem not_accepts_of_convertAll_error {vs : List Value} {e : MergeError}
    (failed : r.convertAll element vs = .error e) : ¬ ∀ v ∈ vs, r.Accepts element v := by
  intro all
  rw [convertAll_eq_ok_iff.2 ⟨all, rfl⟩] at failed
  cases failed

theorem forall₂_coerced {vs : List Value} (accepted : ∀ v ∈ vs, r.Accepts element v) :
    List.Forall₂ (fun v w => r.coercion element v = .ok w) vs (vs.map (r.coerced element)) := by
  rw [List.forall₂_map_right_iff, List.forall₂_same]
  exact fun v member => (accepted v member).coercion_eq

theorem convertAll_eq_ok_iff_forall₂ {vs ws : List Value} : r.convertAll element vs = .ok ws ↔
    List.Forall₂ (fun v w => r.coercion element v = .ok w) vs ws := by
  rw [convertAll_eq_ok_iff]
  constructor
  · rintro ⟨accepted, rfl⟩
    exact forall₂_coerced accepted
  · intro converted
    induction converted with
    | nil => exact ⟨nofun, rfl⟩
    | cons first _ ih =>
      obtain ⟨accepted, rfl⟩ := ih
      exact ⟨List.forall_mem_cons.2 ⟨⟨_, first⟩, accepted⟩, by rw [List.map_cons, coerced_of_ok first]⟩

/-! ## The branches -/

theorem fresh_eq_ok_iff {new : List Value} {c : Container} :
    r.fresh shape element new = .ok c ↔ (∀ v ∈ new, r.Accepts element v) ∧
      containerOf shape (new.map (r.coerced element)) = .ok c := by
  rw [fresh]
  cases converted : r.convertAll element new with
  | error e =>
    simp [not_accepts_of_convertAll_error converted, bind, Except.bind]
  | ok ws =>
    obtain ⟨all, rfl⟩ := convertAll_eq_ok_iff.1 converted
    exact ⟨fun built => ⟨all, built⟩, And.right⟩

theorem joined_eq_ok_iff {current new : List Value} {c : Container} :
    r.joined shape element current new = .ok c ↔
      (∀ v ∈ current ++ new, r.Accepts element v) ∧ containerOf shape
        (r.combined shape (current.map (r.coerced element)) (new.map (r.coerced element))) = .ok c := by
  rw [joined, List.forall_mem_append]
  cases former : r.convertAll element current with
  | error e =>
    simp [not_accepts_of_convertAll_error former, bind, Except.bind]
  | ok cs =>
    obtain ⟨allCurrent, rfl⟩ := convertAll_eq_ok_iff.1 former
    cases latter : r.convertAll element new with
    | error e =>
      simp [not_accepts_of_convertAll_error latter, bind, Except.bind]
    | ok ns =>
      obtain ⟨allNew, rfl⟩ := convertAll_eq_ok_iff.1 latter
      exact ⟨fun built => ⟨⟨allCurrent, allNew⟩, built⟩, And.right⟩

/-- Without new values a container of the shape stays as it is. -/
theorem mergeValues_nil_of_hasShape {held : Container} (shaped : held.hasShape shape = true) :
    r.mergeValues shape element [] (some held) = .ok held := by
  simp [mergeValues, shaped]

/-- Without new values whatever is not of the shape is built anew from its own values. -/
theorem mergeValues_nil_of_not_hasShape {current : Option Container}
    (misshapen : ∀ held, current = some held → held.hasShape shape = false) :
    r.mergeValues shape element [] current = containerOf shape (Container.heldBy current) := by
  cases current with
  | none => rfl
  | some held => simp [mergeValues, misshapen held rfl]

/-- Without new values the current container stays, or is built anew from its own values. -/
theorem exists_mergeValues_nil (r : MergePolicy) (element : ElementType) (supported : shape ≠ .map)
    (current : Option Container) :
    ∃ c, r.mergeValues shape element [] current = .ok c ∧ c.hasShape shape = true ∧
      (some c = current ∨ c.values = shape.arrange (Container.heldBy current)) := by
  obtain ⟨c, built, shaped, values⟩ := exists_containerOf supported (Container.heldBy current)
  cases current with
  | none => exact ⟨c, built, shaped, .inr values⟩
  | some held =>
    cases kept : held.hasShape shape with
    | true => exact ⟨held, mergeValues_nil_of_hasShape kept, kept, .inl rfl⟩
    | false =>
      refine ⟨c, ?_, shaped, .inr values⟩
      rw [mergeValues_nil_of_not_hasShape (by simp [kept]), built]

/-- Without current values the new ones are coerced and put in order. -/
theorem mergeValues_of_none_held {new : List Value} {current : Option Container} (some_new : new ≠ [])
    (none_held : Container.heldBy current = []) :
    r.mergeValues shape element new current = r.fresh shape element new := by
  cases current with
  | none => simp [mergeValues, some_new]
  | some held =>
    have empty : held.values = [] := none_held
    simp [mergeValues, some_new, Container.isEmpty, empty]

/-- With values on both sides all of them are coerced. -/
theorem mergeValues_of_some_held {new : List Value} {current : Option Container} (some_new : new ≠ [])
    (some_held : Container.heldBy current ≠ []) :
    r.mergeValues shape element new current =
      r.joined shape element (Container.heldBy current) new := by
  cases current with
  | none => exact absurd rfl some_held
  | some held =>
    have nonempty : held.values ≠ [] := some_held
    simp [mergeValues, some_new, Container.isEmpty, nonempty, Container.heldBy]

theorem merge_of_toValues (supported : shape ≠ .map) {new : Payload} {vs : List Value}
    (read : new.toValues element = .ok vs) (current : Option Container) :
    r.merge shape element new current = r.mergeValues shape element vs current := by
  rw [merge, if_neg supported, read]
  rfl

theorem merge_of_toValues_error (supported : shape ≠ .map) {new : Payload} {e : MergeError}
    (unread : new.toValues element = .error e) (current : Option Container) :
    r.merge shape element new current = .error e := by
  rw [merge, if_neg supported, unread]
  rfl

/-- A merge that succeeds has read the payload. -/
theorem exists_toValues_of_merge (supported : shape ≠ .map) {new : Payload}
    {current : Option Container} {c : Container}
    (merged : r.merge shape element new current = .ok c) :
    ∃ vs, new.toValues element = .ok vs ∧ r.mergeValues shape element vs current = .ok c := by
  cases read : new.toValues element with
  | error e =>
    rw [merge_of_toValues_error supported read] at merged
    cases merged
  | ok vs =>
    rw [merge_of_toValues supported read] at merged
    exact ⟨vs, rfl, merged⟩

end MergePolicy

end ObjectGraph
