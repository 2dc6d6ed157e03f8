import ObjectGraph.Proofs.Mapper.Hydration
import ObjectGraph.Proofs.Payload.Json

/-!
# Items of a JSON array and their neighbours

The form in which an array is held depends on all its items: one fraction makes binary numbers of its
neighbours.  For most types that makes no difference.  If whole numbers are wanted, the fraction
itself is refused, with neighbours or without; if binary ones are wanted, an integer becomes the
same one on either way; and the other types take no numbers.

* `Mapper.forall₂_converts_iff`: items are converted alike together and alone.
* `Mapper.brought_array`: an array brings what its items bring one by one.
-/

namespace ObjectGraph

/-- Types for which the form of an array does not matter.  It does for single precision, where an
integer that was read as a binary number is rounded twice, and where numbers pass as they are. -/
def ElementType.forgetsForm : ElementType → Bool
  | .boolean | .integer | .long | .double | .string | .enum _ | .entity _ => true
  | .float | .character | .any => false

section Lists

variable {α β γ : Type} {R : α → β → Prop} {S : β → γ → Prop} {xs : List α} {ys : List β}
  {zs : List γ}

theorem forall₂_comp_iff : (∃ ys, List.Forall₂ R xs ys ∧ List.Forall₂ S ys zs) ↔
    List.Forall₂ (fun x z => ∃ y, R x y ∧ S y z) xs zs := by
  constructor
  · rintro ⟨ys, left, right⟩
    induction left generalizing zs with
    | nil =>
      cases right
      exact .nil
    | cons first _ ih =>
      cases right with
      | cons second rest => exact .cons ⟨_, first, second⟩ (ih rest)
  · intro both
    induction both with
    | nil => exact ⟨[], .nil, .nil⟩
    | cons first _ ih =>
      obtain ⟨y, left, right⟩ := first
      obtain ⟨ys, lefts, rights⟩ := ih
      exact ⟨y :: ys, .cons left lefts, .cons right rights⟩

/-- Lists are related element by element if each element is related as a list of its own. -/
theorem forall₂_singletons_iff :
    (∃ parts, List.Forall₂ (fun x part => List.Forall₂ R [x] part) xs parts ∧ ys = parts.flatten) ↔
      List.Forall₂ R xs ys := by
  constructor
  · rintro ⟨parts, related, rfl⟩
    induction related with
    | nil => exact .nil
    | cons first _ ih =>
      cases first with
      | cons r none =>
        cases none
        exact .cons r ih
  · intro related
    refine ⟨ys.map fun y => [y], List.forall₂_map_right_iff.2 ?_, ?_⟩
    · exact related.imp fun _ _ r => .cons r .nil
    · rw [← List.flatMap_def, List.flatMap_singleton']

end Lists

/-- A 64-bit integer is the same binary number as the number that it was read from. -/
theorem Json.Number.toDouble_of_toInt? {n : Json.Number} {l : Int64}
    (integral : n.toInt? = some l) : n.toDouble = .ofInt l.toInt := by
  cases n with
  | unsigned n =>
    rw [toInt?] at integral
    split at integral
    · next small =>
      cases integral
      have bound : Nat.pow 2 63 = 2 ^ 63 := rfl
      have same : (Int64.ofInt n.toNat).toInt = n.toNat :=
        Int64.toInt_ofInt_of_le (by omega) (by omega)
      rw [same]
      rfl
    · cases integral
  | negative i =>
    cases integral
    rfl
  | real x => cases integral

namespace Mapper

open Payload (Reads Widened)

variable {m : Mapper} {element : ElementType} {wide : Prop} {items : List Json.Value}
  {item : Json.Value} {n : Json.Number} {v w : Value}

/-- What an item becomes in the declared type, read as the form of its array has it. -/
def Converts (wide : Prop) (element : ElementType) (item : Json.Value) (w : Value) : Prop :=
  ∃ v, Reads wide item v ∧ Coercion.standard element v = .ok w

/-! ## One item in two forms -/

theorem exists_reads_number (wide : Prop) (n : Json.Number) : ∃ v, Reads wide (.number n) v := by
  by_cases inexact : wide ∨ n.toInt? = none
  · exact ⟨_, .real inexact⟩
  · rw [not_or, ← ne_eq, Option.ne_none_iff_exists'] at inexact
    obtain ⟨integral, l, found⟩ := inexact
    exact ⟨_, .whole integral found⟩

/-- A binary number is the same, also if an integer was read. -/
theorem standard_double_of_reads (reads : Reads wide (.number n) v) :
    Coercion.standard .double v = .ok (.double n.toDouble) := by
  cases reads with
  | whole _ found =>
    rw [Json.Number.toDouble_of_toInt? found]
    rfl
  | real => rfl

theorem Converts.double {other : Prop} (converts : Converts wide .double item w) :
    Converts other .double item w := by
  obtain ⟨v, reads, converted⟩ := converts
  cases reads with
  | null => exact ⟨_, .null, converted⟩
  | bool => exact ⟨_, .bool, converted⟩
  | string => exact ⟨_, .string, converted⟩
  | whole integral found =>
    rw [standard_double_of_reads (.whole integral found)] at converted
    obtain ⟨u, reads⟩ := exists_reads_number other _
    exact ⟨u, reads, (standard_double_of_reads reads).trans converted⟩
  | real inexact =>
    rw [standard_double_of_reads (.real inexact)] at converted
    obtain ⟨u, reads⟩ := exists_reads_number other _
    exact ⟨u, reads, (standard_double_of_reads reads).trans converted⟩

/-- Where no binary numbers are wanted, a number that is no integer is refused in every form. -/
theorem not_converts_of_fraction (alike : element.forgetsForm = true) (whole : element ≠ .double)
    (fraction : n.toInt? = none) : ¬ Converts wide element (.number n) w := by
  rintro ⟨v, reads, converted⟩
  cases reads with
  | whole _ found =>
    rw [fraction] at found
    cases found
  | real =>
    cases element with
    | double => exact absurd rfl whole
    | float | character | any => cases alike
    | _ => cases converted

/-! ## All items -/

/-- Together the items are converted as each is on its own. -/
theorem forall₂_converts_iff (alike : element.forgetsForm = true) {ws : List Value} :
    List.Forall₂ (Converts (Widened items) element) items ws ↔
      List.Forall₂ (Converts False element) items ws := by
  by_cases widened : Widened items
  · by_cases double : element = .double
    · subst double
      exact ⟨fun all => all.imp fun _ _ => Converts.double,
        fun all => all.imp fun _ _ => Converts.double⟩
    · obtain ⟨-, n, member, fraction⟩ := widened
      have refused {form : Prop} : ¬ List.Forall₂ (Converts form element) items ws := by
        intro all
        obtain ⟨w, converts⟩ := exists_of_forall₂ all member
        exact not_converts_of_fraction alike double fraction converts
      exact iff_of_false refused refused
  · rw [eq_false widened]

theorem brought_json_eq_ok_iff {j : Json.Value} {ws : List Value} :
    m.brought element (.json j) = .ok ws ↔ ∃ vs,
      (Payload.ofJson j).bind (Payload.toValues element) = .ok vs ∧
      m.policy.convertAll element vs = .ok ws := by
  have steps : m.brought element (.json j) =
      ((Payload.ofJson j).bind (Payload.toValues element)).bind (m.policy.convertAll element) := by
    have read : (Load.json j).toPayload = Payload.ofJson j := rfl
    rw [brought, read]
    cases Payload.ofJson j with
    | error e => rfl
    | ok p => rfl
  rw [steps]
  cases (Payload.ofJson j).bind (Payload.toValues element) with
  | error e => simp [Except.bind]
  | ok vs => simp [Except.bind]

theorem brought_array_eq_ok_iff (standard : m.coercion = Coercion.standard)
    (alike : element.forgetsForm = true) {ws : List Value} :
    m.brought element (.json (.array items)) = .ok ws ↔
      List.Forall₂ (Converts False element) items ws := by
  have other : element ≠ .character := by
    rintro rfl
    cases alike
  have array : Payload.ofJson (.array items) = Payload.ofJsonArray items := rfl
  have rules : m.policy.coercion = Coercion.standard := standard
  rw [brought_json_eq_ok_iff, array, ← forall₂_converts_iff alike]
  simp only [Payload.ofJsonArray_bind_eq_ok_iff other, MergePolicy.convertAll_eq_ok_iff_forall₂,
    rules]
  exact forall₂_comp_iff

/-- **An array brings what its items bring one by one.**  With the standard rules, an array is converted
to any of these types if and only if each array of one of its items is, and then it brings their values
one after the other, the same to the bit. -/
theorem brought_array (m : Mapper) (standard : m.coercion = Coercion.standard) (element : ElementType)
    (alike : element.forgetsForm = true) (items : List Json.Value) (ws : List Value) :
    m.brought element (.json (.array items)) = .ok ws ↔ ∃ parts, List.Forall₂
      (fun item part => m.brought element (.json (.array [item])) = .ok part) items parts ∧
      ws = parts.flatten := by
  simp only [brought_array_eq_ok_iff standard alike]
  exact forall₂_singletons_iff.symm

/-- An integer that no binary number is equal to is rounded to the same one beside a fraction. -/
theorem brought_array_rounded :
    let m : Mapper := { cache := 0 }
    let items : List Json.Value :=
      [.number (.unsigned 9007199254740993), .number (.real (.ofRatio false 3 2))]
    m.coercion = Coercion.standard ∧ ElementType.double.forgetsForm = true ∧
      m.brought .double (.json (.array items)) =
        .ok [.double (.ofInt 9007199254740992), .double (.ofRatio false 3 2)] := by
  intro m items
  have alone : m.brought .double (.json (.array [.number (.unsigned 9007199254740993)])) =
      .ok [.double (.ofInt 9007199254740992)] := rfl
  have fraction : m.brought .double (.json (.array [.number (.real (.ofRatio false 3 2))])) =
      .ok [.double (.ofRatio false 3 2)] := rfl
  exact ⟨rfl, rfl, (brought_array m rfl .double rfl items _).2
    ⟨_, .cons alone (.cons fraction .nil), rfl⟩⟩

/-- In single precision it makes a difference whether a fraction stands beside an integer. -/
example :
    let m : Mapper := { cache := 0 }
    let integer : Json.Value := .number (.unsigned 18014399583223809)
    let half : Json.Value := .number (.real (.ofRatio false 1 2))
    m.brought .float (.json (.array [integer])) = .ok [.float (.ofInt 18014400656965632)] ∧
      m.brought .float (.json (.array [integer, half])) =
        .ok [.float (.ofInt 18014398509481984), .float (.ofRatio false 1 2)] := by
  intro m integer half
  exact ⟨rfl, rfl⟩

end Mapper

end ObjectGraph
