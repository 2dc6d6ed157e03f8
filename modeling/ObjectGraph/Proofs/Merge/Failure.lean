import ObjectGraph.Proofs.Merge.Batches

/-!
# How a merge fails

Three guards stand one behind the other: maps are refused before anything else is looked at, a
payload is read before anything is coerced, and values are coerced only if there are new ones.  Which
of several errors is reported depends on that order alone.

* `Payload.toValues_eq_error_iff`: a payload is read, unless a character is missing.
* `MergePolicy.convertAll_eq_error_iff`: coercing a list fails as its first refused value does.
* `MergePolicy.mergeValues_nil`: without new values no coercion is asked.
* `MergePolicy.merge_failure`: when a merge fails, with which error, and when it succeeds.
-/

namespace ObjectGraph

/-! ## Reading a payload -/

namespace Payload

/-- Whether characters are wanted from an array of texts of which one is empty. -/
def LacksCharacter (element : ElementType) : Payload → Prop
  | .strings texts => element = .character ∧ "" ∈ texts
  | _ => False

/-- What is said of an empty text from which a character is wanted. -/
def noFirstCharacter : Refusal := ⟨ElementType.character.name, "\"\"", .emptyText⟩

theorem firstCharacters_eq_error_iff {texts : List String} {e : MergeError} :
    firstCharacters texts = .error e ↔ "" ∈ texts ∧ e = .coercionFailure noFirstCharacter := by
  induction texts with
  | nil => simp [firstCharacters]
  | cons s rest ih =>
    rw [firstCharacters]
    split
    · next empty =>
      rw [String.toList_eq_nil_iff.1 empty]
      simp only [List.mem_cons_self, true_and, Except.error.injEq]
      exact eq_comm
    · next c tail characters =>
      have present : s ≠ "" := by
        rintro rfl
        cases characters
      rw [List.mem_cons, or_iff_right present.symm, ← ih]
      cases firstCharacters rest with
      | error f => simp [Except.map]
      | ok vs => simp [Except.map]

theorem toValues_eq_error_iff {p : Payload} {element : ElementType} {e : MergeError} :
    p.toValues element = .error e ↔
      p.LacksCharacter element ∧ e = .coercionFailure noFirstCharacter := by
  cases p with
  | strings texts =>
    by_cases characters : element = .character
    · subst characters
      have read : (strings texts).toValues .character = firstCharacters texts := rfl
      rw [read, firstCharacters_eq_error_iff]
      simp [LacksCharacter]
    · simp [toValues, LacksCharacter, ElementType.isCharacter, characters]
  | _ => simp [toValues, LacksCharacter]

/-- A payload is read, unless a character is missing. -/
theorem toValues_cases (p : Payload) (element : ElementType) :
    p.LacksCharacter element ∧ p.toValues element = .error (.coercionFailure noFirstCharacter) ∨
      ¬ p.LacksCharacter element ∧ ∃ vs, p.toValues element = .ok vs := by
  cases read : p.toValues element with
  | error e =>
    obtain ⟨lacks, rfl⟩ := toValues_eq_error_iff.1 read
    exact .inl ⟨lacks, rfl⟩
  | ok vs =>
    refine .inr ⟨fun lacks => ?_, vs, rfl⟩
    rw [toValues_eq_error_iff.2 ⟨lacks, rfl⟩] at read
    cases read

end Payload

namespace MergePolicy

variable {r : MergePolicy} {shape : Shape} {element : ElementType}

/-! ## The first refused value -/

/-- The coercion refuses a value for the reason given, and accepts all values before it. -/
def FirstRefused (r : MergePolicy) (element : ElementType) (vs : List Value) (e : Refusal) : Prop :=
  ∃ before v after, vs = before ++ v :: after ∧
    (∀ u ∈ before, r.Accepts element u) ∧ r.coercion element v = .error e

theorem not_firstRefused_nil {e : Refusal} : ¬ r.FirstRefused element [] e := by
  rintro ⟨before, v, after, none, -⟩
  simp at none

theorem firstRefused_cons {v : Value} {vs : List Value} {e : Refusal} :
    r.FirstRefused element (v :: vs) e ↔
      r.coercion element v = .error e ∨ r.Accepts element v ∧ r.FirstRefused element vs e := by
  constructor
  · rintro ⟨before, u, after, split, accepted, refused⟩
    cases before with
    | nil =>
      cases split
      exact .inl refused
    | cons w before =>
      cases split
      obtain ⟨first, others⟩ := List.forall_mem_cons.1 accepted
      exact .inr ⟨first, before, u, after, rfl, others, refused⟩
  · rintro (refused | ⟨first, before, u, after, rfl, accepted, refused⟩)
    · exact ⟨[], v, vs, rfl, by simp, refused⟩
    · exact ⟨v :: before, u, after, rfl, List.forall_mem_cons.2 ⟨first, accepted⟩, refused⟩

theorem firstRefused_append {xs ys : List Value} {e : Refusal} :
    r.FirstRefused element (xs ++ ys) e ↔ r.FirstRefused element xs e ∨
      (∀ x ∈ xs, r.Accepts element x) ∧ r.FirstRefused element ys e := by
  induction xs with
  | nil => simp [not_firstRefused_nil]
  | cons x xs ih =>
    rw [List.cons_append, firstRefused_cons, firstRefused_cons, ih, List.forall_mem_cons]
    tauto

/-- The conversion of all values fails as that of the first refused one. -/
theorem convertAll_eq_error_iff {vs : List Value} {e : MergeError} :
    r.convertAll element vs = .error e ↔
      ∃ f, r.FirstRefused element vs f ∧ e = .coercionFailure f := by
  induction vs with
  | nil => simp [convertAll, not_firstRefused_nil]
  | cons v vs ih =>
    rw [convertAll]
    cases first : r.coercion element v with
    | error f => simp [firstRefused_cons, first, not_accepts_of_error first, eq_comm]
    | ok w =>
      have accepted : r.Accepts element v := ⟨w, first⟩
      cases rest : r.convertAll element vs with
      | error f => simpa [firstRefused_cons, first, accepted, rest] using ih
      | ok ws => simpa [firstRefused_cons, first, accepted, rest] using ih

/-! ## The branches that coerce -/

theorem fresh_eq_error_iff (supported : shape ≠ .map) {new : List Value} {e : MergeError} :
    r.fresh shape element new = .error e ↔
      ∃ f, r.FirstRefused element new f ∧ e = .coercionFailure f := by
  rw [← convertAll_eq_error_iff, fresh]
  cases r.convertAll element new with
  | error f => simp [bind, Except.bind]
  | ok ws =>
    obtain ⟨c, built, -⟩ := exists_containerOf supported ws
    simp [bind, Except.bind, built]

theorem joined_eq_error_iff (supported : shape ≠ .map) {current new : List Value} {e : MergeError} :
    r.joined shape element current new = .error e ↔
      ∃ f, r.FirstRefused element (current ++ new) f ∧ e = .coercionFailure f := by
  simp only [firstRefused_append, or_and_right, exists_or, and_assoc, exists_and_left]
  rw [← convertAll_eq_error_iff, ← convertAll_eq_error_iff, joined]
  cases former : r.convertAll element current with
  | error f => simp [bind, Except.bind, not_accepts_of_convertAll_error former]
  | ok cs =>
    have accepted := (convertAll_eq_ok_iff.1 former).1
    cases r.convertAll element new with
    | error f => simpa [bind, Except.bind] using fun _ => accepted
    | ok ns =>
      obtain ⟨c, built, -⟩ := exists_containerOf supported (r.combined shape cs ns)
      simp [bind, Except.bind, built]

/-- A merge that brings values fails as the first of all values that is refused. -/
theorem mergeValues_eq_error_iff (supported : shape ≠ .map) {new : List Value}
    (some_new : new ≠ []) {current : Option Container} {e : MergeError} :
    r.mergeValues shape element new current = .error e ↔
      ∃ f, r.FirstRefused element (Container.heldBy current ++ new) f ∧ e = .coercionFailure f := by
  by_cases none_held : Container.heldBy current = []
  · rw [mergeValues_of_none_held some_new none_held, fresh_eq_error_iff supported, none_held,
      List.nil_append]
  · rw [mergeValues_of_some_held some_new none_held, joined_eq_error_iff supported]

/-! ## Merging without new values -/

/-- A merge that brings no values succeeds without asking any coercion. -/
theorem mergeValues_nil (element : ElementType) (supported : shape ≠ .map)
    (current : Option Container) :
    ∃ merged, (∀ other : MergePolicy, other.mergeValues shape element [] current = .ok merged) ∧
      (∀ held, current = some held → held.hasShape shape = true → merged = held) ∧
      ((∀ held, current = some held → held.hasShape shape = false) →
        containerOf shape (Container.heldBy current) = .ok merged) := by
  by_cases shaped : ∃ held, current = some held ∧ held.hasShape shape = true
  · obtain ⟨held, rfl, kept⟩ := shaped
    refine ⟨held, fun _ => mergeValues_nil_of_hasShape kept, by simp, fun misshapen => ?_⟩
    rw [misshapen held rfl] at kept
    cases kept
  · have misshapen : ∀ held, current = some held → held.hasShape shape = false := by
      simpa using shaped
    obtain ⟨reshaped, built, -⟩ := exists_containerOf supported (Container.heldBy current)
    refine ⟨reshaped, fun _ => ?_, fun held same kept => ?_, fun _ => built⟩
    · rw [mergeValues_nil_of_not_hasShape misshapen, built]
    · exact absurd ⟨held, same, kept⟩ shaped

/-! ## Merging -/

/-- How a merge into a supported shape fails. -/
theorem merge_eq_error_iff (supported : shape ≠ .map) {new : Payload} {current : Option Container}
    {e : MergeError} :
    r.merge shape element new current = .error e ↔ ∃ f, e = .coercionFailure f ∧
      (new.LacksCharacter element ∧ f = Payload.noFirstCharacter ∨
        ∃ vs, new.toValues element = .ok vs ∧ vs ≠ [] ∧
          r.FirstRefused element (Container.heldBy current ++ vs) f) := by
  obtain ⟨lacks, unread⟩ | ⟨complete, vs, read⟩ := new.toValues_cases element
  · rw [merge_of_toValues_error supported unread]
    simp [lacks, unread, eq_comm]
  · rw [merge_of_toValues supported read]
    by_cases none_new : vs = []
    · subst none_new
      obtain ⟨merged, done, -⟩ := mergeValues_nil element supported current
      simp [done, complete, read]
    · rw [mergeValues_eq_error_iff supported none_new]
      simp [complete, none_new, read, and_comm]

/-- When a merge into a supported shape succeeds. -/
theorem exists_merge_iff (supported : shape ≠ .map) {new : Payload} {current : Option Container} :
    (∃ merged, r.merge shape element new current = .ok merged) ↔
      ¬ new.LacksCharacter element ∧ ∀ vs, new.toValues element = .ok vs → vs ≠ [] →
        ∀ v ∈ Container.heldBy current ++ vs, r.Accepts element v := by
  obtain ⟨lacks, unread⟩ | ⟨complete, vs, read⟩ := new.toValues_cases element
  · rw [merge_of_toValues_error supported unread]
    simp [lacks]
  · rw [merge_of_toValues supported read]
    by_cases none_new : vs = []
    · subst none_new
      obtain ⟨merged, done, -⟩ := mergeValues_nil element supported current
      simp [done, complete, read]
    · rw [exists_mergeValues_iff supported none_new]
      simp [complete, none_new, read]

/-- **How a merge fails.**  A map is always refused, and nothing else is refused as a shape.  For the
other shapes a missing character is reported before any value is coerced; otherwise, if there are new
values, the first refused value of the current container and the new ones together; and there is no
further way to fail.  Without new values the result is the same for every coercion: the current
container if it has the shape, else one of its values as they are. -/
theorem merge_failure (r : MergePolicy) (shape : Shape) (element : ElementType) (new : Payload)
    (current : Option Container) :
    (∀ name, r.merge shape element new current = .error (.unsupportedKind name) ↔
      shape = .map ∧ name = Shape.map.name) ∧
    (∀ e, r.merge shape element new current = .error (.coercionFailure e) ↔ shape ≠ .map ∧
      (new.LacksCharacter element ∧ e = Payload.noFirstCharacter ∨
        ∃ vs, new.toValues element = .ok vs ∧ vs ≠ [] ∧
          r.FirstRefused element (Container.heldBy current ++ vs) e)) ∧
    ((∃ merged, r.merge shape element new current = .ok merged) ↔
      shape ≠ .map ∧ ¬ new.LacksCharacter element ∧
        ∀ vs, new.toValues element = .ok vs → vs ≠ [] →
          ∀ v ∈ Container.heldBy current ++ vs, r.Accepts element v) ∧
    (shape ≠ .map → new.toValues element = .ok [] →
      ∃ merged, (∀ other : MergePolicy, other.merge shape element new current = .ok merged) ∧
        (∀ held, current = some held → held.hasShape shape = true → merged = held) ∧
        ((∀ held, current = some held → held.hasShape shape = false) →
          containerOf shape (Container.heldBy current) = .ok merged)) := by
  by_cases map : shape = .map
  · subst map
    have failed : r.merge .map element new current = .error (.unsupportedKind Shape.map.name) := rfl
    rw [failed]
    refine ⟨fun name => ?_, fun e => ?_, ?_, fun supported => absurd rfl supported⟩
    · simpa using eq_comm
    · simp
    · simp
  · refine ⟨fun name => ?_, fun e => ?_, ?_, fun _ none_new => ?_⟩
    · simp [merge_eq_error_iff map, map]
    · simp [merge_eq_error_iff map, map]
    · rw [exists_merge_iff map, ne_eq, eq_false map, not_false_eq_true, true_and]
    · simp only [merge_of_toValues map none_new]
      exact mergeValues_nil element map current

/-- Among values that are refused on both sides, one of the current container is reported. -/
theorem merge_failure_current :
    merge {} .list .long (.strings ["y"]) (some (.list [.long 1, .string "x"])) =
      .error (.coercionFailure (Coercion.refuse .long (.string "x") (.unreadable .invalidDigit))) := by
  have failure := merge_failure {} .list .long (.strings ["y"]) (some (.list [.long 1, .string "x"]))
  refine (failure.2.1 _).2 ⟨by decide, .inr ⟨[.string "y"], rfl, by simp, ?_⟩⟩
  refine ⟨[.long 1], .string "x", [.string "y"], rfl, fun u member => ?_, rfl⟩
  rw [List.mem_singleton] at member
  subst member
  exact ⟨_, rfl⟩

end MergePolicy

end ObjectGraph
