import Mathlib.Data.List.Forall2
import ObjectGraph.Payload

/-!
# The values in a JSON value

An array is held in the narrowest primitive form that fits all its items, or else item by item.  The
forms are probed one after the other; this module says what comes out of them together.  `Reads` is
what becomes of one item, and the only thing that it depends on besides the item is whether the
array is one of numbers that are not all 64-bit integers.

* `Payload.ofJsonArray_of_nested`: of the arrays and objects inside an array the first is refused.
* `Payload.exists_ofJsonArray`: all other arrays keep every item in its place.
* `Payload.ofJson_keeps`: JSON values that are refused, and the values of the others.
-/

namespace ObjectGraph

section Traversal

variable {α β : Type} {f : α → Option β} {xs : List α} {ys : List β}

theorem mapM_eq_some_iff : xs.mapM f = some ys ↔ List.Forall₂ (fun x y => f x = some y) xs ys := by
  induction xs generalizing ys with
  | nil => simp [eq_comm]
  | cons x xs ih =>
    simp only [List.mapM_cons, Option.bind_eq_bind, Option.bind_eq_some_iff, Option.pure_def,
      Option.some.injEq, ih, List.forall₂_cons_left_iff]
    constructor
    · rintro ⟨y, first, ys, others, rfl⟩
      exact ⟨y, ys, first, others, rfl⟩
    · rintro ⟨y, ys, first, others, rfl⟩
      exact ⟨y, first, ys, others, rfl⟩

theorem mapM_eq_none_iff : xs.mapM f = none ↔ ∃ x ∈ xs, f x = none := by
  induction xs with
  | nil => simp
  | cons x xs ih =>
    rw [List.mapM_cons, List.exists_mem_cons_iff, ← ih]
    cases f x with
    | none => simp
    | some y => cases xs.mapM f <;> simp

theorem exists_of_forall₂ {R : α → β → Prop} (related : List.Forall₂ R xs ys) {x : α}
    (member : x ∈ xs) : ∃ y, R x y := by
  have each := related.imp fun _ y r => And.intro (Exists.intro y r) r
  exact ((List.forall₂_and_left _ _).1 each).1 x member

end Traversal

/-- Arrays and objects. -/
def Json.Value.isNested : Json.Value → Bool
  | .array _ | .object _ => true
  | _ => false

/-- What is no value: an object as a whole, or the first array or object inside an array. -/
def Json.Value.firstNested? : Json.Value → Option Json.Value
  | .array items => items.find? isNested
  | .object members => some (.object members)
  | _ => none

namespace Payload

/-- What is said of an array or object where a value belongs. -/
def notAValue (j : Json.Value) : Refusal := ⟨"property value", j.compact, .nested⟩

/-- All items are numbers, and one of them at least is no 64-bit integer. -/
def Widened (items : List Json.Value) : Prop :=
  (∀ item ∈ items, ∃ n, item = .number n) ∧ ∃ n, .number n ∈ items ∧ n.toInt? = none

/-- What an item is read as.  A number is a 64-bit integer if it can be one and `wide` does not hold,
and a binary number otherwise. -/
inductive Reads (wide : Prop) : Json.Value → Value → Prop
  | null : Reads wide .null .null
  | bool {b : Bool} : Reads wide (.bool b) (.boolean b)
  | string {s : String} : Reads wide (.string s) (.string s)
  | whole {n : Json.Number} {l : Int64} : ¬ wide → n.toInt? = some l →
    Reads wide (.number n) (.long l)
  | real {n : Json.Number} : wide ∨ n.toInt? = none → Reads wide (.number n) (.double n.toDouble)

variable {wide : Prop} {items : List Json.Value} {item : Json.Value} {v : Value}

theorem toValues_strings {element : ElementType} (other : element ≠ .character)
    {texts : List String} : (strings texts).toValues element = .ok (texts.map .string) := by
  simp [toValues, ElementType.isCharacter, other]

theorem toValues_text {element : ElementType} (other : element ≠ .character) {s : String} :
    (text s).toValues element = .ok [.string s] := by
  simp [toValues, ElementType.isCharacter, other]

/-! ## One item -/

theorem Reads.isNested_eq (reads : Reads wide item v) : item.isNested = false := by
  cases reads with
  | _ => rfl

/-- An item is read in one way only. -/
theorem reads_rightUnique (wide : Prop) : Relator.RightUnique (Reads wide) := by
  intro item u v left right
  cases left with
  | null | bool | string =>
    cases right with
    | _ => rfl
  | whole integral found =>
    cases right with
    | whole _ same =>
      rw [found, Option.some.injEq] at same
      rw [same]
    | real other =>
      rw [or_iff_right integral, found] at other
      cases other
  | real other =>
    cases right with
    | whole integral found =>
      rw [or_iff_right integral, found] at other
      cases other
    | real => rfl

theorem reads_of_asString? {s : String} (found : item.asString? = some s) :
    Reads wide item (.string s) := by
  cases item with
  | string => cases found; exact .string
  | _ => cases found

theorem reads_of_asBool? {b : Bool} (found : item.asBool? = some b) :
    Reads wide item (.boolean b) := by
  cases item with
  | bool => cases found; exact .bool
  | _ => cases found

theorem reads_of_asInt? {l : Int64} (integral : ¬ wide) (found : item.asInt? = some l) :
    Reads wide item (.long l) := by
  cases item with
  | number n => exact .whole integral found
  | _ => cases found

theorem reads_of_asDouble? {x : Double} (widened : wide) (found : item.asDouble? = some x) :
    Reads wide item (.double x) := by
  cases item with
  | number n => cases found; exact .real (.inl widened)
  | _ => cases found

theorem unprobed_of_nested (nested : item.isNested = true) : item.asString? = none ∧
    item.asBool? = none ∧ item.asInt? = none ∧ item.asDouble? = none := by
  cases item with
  | array | object => exact ⟨rfl, rfl, rfl, rfl⟩
  | _ => cases nested

theorem asDouble?_eq_none_iff : item.asDouble? = none ↔ ∀ n, item ≠ .number n := by
  cases item with
  | _ => simp [Json.Value.asDouble?]

/-- Item by item a number is an integer if it can be one. -/
theorem exists_scalar (simple : item.isNested = false) :
    ∃ v, scalar item = .ok v ∧ Reads False item v := by
  cases item with
  | null => exact ⟨_, rfl, .null⟩
  | bool => exact ⟨_, rfl, .bool⟩
  | string => exact ⟨_, rfl, .string⟩
  | number n =>
    cases integer : n.toInt? with
    | some l => exact ⟨.long l, by rw [scalar, integer], .whole id integer⟩
    | none => exact ⟨.double n.toDouble, by rw [scalar, integer], .real (.inr integer)⟩
  | array | object => cases simple

theorem scalar_of_nested (nested : item.isNested = true) :
    scalar item = .error (.coercionFailure (notAValue item)) := by
  cases item with
  | array | object => rfl
  | _ => cases nested

/-! ## Item by item -/

theorem mapM_scalar_of_nested (found : items.find? Json.Value.isNested = some item) :
    items.mapM scalar = .error (.coercionFailure (notAValue item)) := by
  induction items with
  | nil => cases found
  | cons first rest ih =>
    rw [List.mapM_cons]
    cases nested : first.isNested with
    | true =>
      rw [List.find?_cons_of_pos nested, Option.some.injEq] at found
      subst found
      rw [scalar_of_nested nested]
      rfl
    | false =>
      rw [List.find?_cons_of_neg (by simp [nested])] at found
      obtain ⟨v, read, -⟩ := exists_scalar nested
      rw [read, ih found]
      rfl

theorem exists_mapM_scalar (simple : ∀ item ∈ items, item.isNested = false) :
    ∃ vs, items.mapM scalar = .ok vs ∧ List.Forall₂ (Reads False) items vs := by
  induction items with
  | nil => exact ⟨[], rfl, .nil⟩
  | cons first rest ih =>
    obtain ⟨firstSimple, restSimple⟩ := List.forall_mem_cons.1 simple
    obtain ⟨v, read, reads⟩ := exists_scalar firstSimple
    obtain ⟨vs, readAll, readsAll⟩ := ih restSimple
    refine ⟨v :: vs, ?_, .cons reads readsAll⟩
    rw [List.mapM_cons, read, readAll]
    rfl

/-! ## All items together -/

theorem ofJsonArray_of_unprobed (nonempty : items ≠ [])
    (texts : items.mapM Json.Value.asString? = none) (truths : items.mapM Json.Value.asBool? = none)
    (integers : items.mapM Json.Value.asInt? = none)
    (numbers : items.mapM Json.Value.asDouble? = none) :
    ofJsonArray items = (items.mapM scalar).map .values := by
  have some_items : ¬ items.isEmpty = true := by simpa using nonempty
  rw [ofJsonArray, if_neg some_items, texts]
  dsimp only
  rw [truths]
  dsimp only
  rw [integers]
  dsimp only
  rw [numbers]

/-- Of several arrays and objects inside an array the first is shown. -/
theorem ofJsonArray_of_nested (found : items.find? Json.Value.isNested = some item) :
    ofJsonArray items = .error (.coercionFailure (notAValue item)) := by
  have member := List.mem_of_find?_eq_some found
  have unprobed {α : Type} {probe : Json.Value → Option α} (fails : probe item = none) :
      items.mapM probe = none := mapM_eq_none_iff.2 ⟨item, member, fails⟩
  obtain ⟨noText, noTruth, noInteger, noNumber⟩ := unprobed_of_nested (List.find?_some found)
  rw [ofJsonArray_of_unprobed (List.ne_nil_of_mem member) (unprobed noText) (unprobed noTruth)
    (unprobed noInteger) (unprobed noNumber), mapM_scalar_of_nested found]
  rfl

/-! ### Which numbers are binary -/

theorem widened_of_probes (integers : items.mapM Json.Value.asInt? = none) {xs : List Double}
    (numbers : items.mapM Json.Value.asDouble? = some xs) : Widened items := by
  have number : ∀ item ∈ items, ∃ n, item = .number n := by
    intro item member
    by_contra other
    have unprobed : items.mapM Json.Value.asDouble? = none :=
      mapM_eq_none_iff.2 ⟨item, member, asDouble?_eq_none_iff.2 (by simpa using other)⟩
    rw [numbers] at unprobed
    cases unprobed
  obtain ⟨item, member, fraction⟩ := mapM_eq_none_iff.1 integers
  obtain ⟨n, rfl⟩ := number item member
  exact ⟨number, n, member, fraction⟩

theorem not_widened_of_integers {ls : List Int64}
    (integers : items.mapM Json.Value.asInt? = some ls) : ¬ Widened items := by
  rintro ⟨-, n, member, fraction⟩
  rw [mapM_eq_none_iff.2 ⟨_, member, fraction⟩] at integers
  cases integers

theorem not_widened_of_unprobed (numbers : items.mapM Json.Value.asDouble? = none) :
    ¬ Widened items := by
  rintro ⟨number, -⟩
  obtain ⟨item, member, other⟩ := mapM_eq_none_iff.1 numbers
  obtain ⟨n, rfl⟩ := number item member
  cases other

/-! ### Every item in its place -/

/-- The payload gives one value for each item, in the order of the items. -/
def Keeps (items : List Json.Value) (p : Payload) : Prop :=
  ∀ element, element ≠ .character →
    ∃ vs, p.toValues element = .ok vs ∧ List.Forall₂ (Reads (Widened items)) items vs

theorem keeps_strings {ss : List String} (texts : items.mapM Json.Value.asString? = some ss) :
    Keeps items (.strings ss) := fun _ other =>
  ⟨_, toValues_strings other, List.forall₂_map_right_iff.2
    ((mapM_eq_some_iff.1 texts).imp fun _ _ => reads_of_asString?)⟩

theorem keeps_booleans {bs : List Bool} (truths : items.mapM Json.Value.asBool? = some bs) :
    Keeps items (.booleans bs) := fun _ _ =>
  ⟨_, rfl, List.forall₂_map_right_iff.2
    ((mapM_eq_some_iff.1 truths).imp fun _ _ => reads_of_asBool?)⟩

theorem keeps_longs {ls : List Int64} (integers : items.mapM Json.Value.asInt? = some ls) :
    Keeps items (.longs ls) := fun _ _ =>
  ⟨_, rfl, List.forall₂_map_right_iff.2
    ((mapM_eq_some_iff.1 integers).imp fun _ _ =>
      reads_of_asInt? (not_widened_of_integers integers))⟩

theorem keeps_doubles (integers : items.mapM Json.Value.asInt? = none) {xs : List Double}
    (numbers : items.mapM Json.Value.asDouble? = some xs) : Keeps items (.doubles xs) := fun _ _ =>
  ⟨_, rfl, List.forall₂_map_right_iff.2
    ((mapM_eq_some_iff.1 numbers).imp fun _ _ =>
      reads_of_asDouble? (widened_of_probes integers numbers))⟩

/-- Whatever form an array without arrays and objects is held in, every item keeps its place. -/
theorem exists_ofJsonArray (simple : ∀ item ∈ items, item.isNested = false) :
    ∃ p, ofJsonArray items = .ok p ∧ Keeps items p := by
  unfold ofJsonArray
  split
  · next none =>
    obtain rfl := List.isEmpty_iff.1 none
    exact ⟨_, rfl, fun _ _ => ⟨[], rfl, .nil⟩⟩
  split
  · next ss texts => exact ⟨_, rfl, keeps_strings texts⟩
  split
  · next bs truths => exact ⟨_, rfl, keeps_booleans truths⟩
  split
  · next ls integers => exact ⟨_, rfl, keeps_longs integers⟩
  next integers =>
    split
    · next xs numbers => exact ⟨_, rfl, keeps_doubles integers numbers⟩
    next numbers =>
      obtain ⟨vs, read, reads⟩ := exists_mapM_scalar simple
      rw [← eq_false (not_widened_of_unprobed numbers)] at reads
      rw [read]
      exact ⟨_, rfl, fun _ _ => ⟨vs, rfl, reads⟩⟩

/-- An array is refused for its first array or object, or every item keeps its place. -/
theorem ofJsonArray_cases (items : List Json.Value) :
    (∃ item, items.find? Json.Value.isNested = some item ∧
      ofJsonArray items = .error (.coercionFailure (notAValue item))) ∨
    (items.find? Json.Value.isNested = none ∧ ∃ p, ofJsonArray items = .ok p ∧ Keeps items p) := by
  cases found : items.find? Json.Value.isNested with
  | some item => exact .inl ⟨item, rfl, ofJsonArray_of_nested found⟩
  | none => exact .inr ⟨rfl, exists_ofJsonArray (by simpa using found)⟩

/-- What an array gives is what its items are read as. -/
theorem ofJsonArray_bind_eq_ok_iff {element : ElementType} (other : element ≠ .character)
    {vs : List Value} : (ofJsonArray items).bind (toValues element) = .ok vs ↔
      List.Forall₂ (Reads (Widened items)) items vs := by
  obtain ⟨item, found, refused⟩ | ⟨-, p, held, keeps⟩ := ofJsonArray_cases items
  · rw [refused]
    constructor
    · nofun
    · intro reads
      obtain ⟨v, read⟩ := exists_of_forall₂ reads (List.mem_of_find?_eq_some found)
      have simple := read.isNested_eq
      rw [List.find?_some found] at simple
      cases simple
  · obtain ⟨us, read, reads⟩ := keeps element other
    have given : (ofJsonArray items).bind (toValues element) = .ok us := by
      rw [held]
      exact read
    rw [given, Except.ok.injEq]
    constructor
    · rintro rfl
      exact reads
    · exact List.right_unique_forall₂' (reads_rightUnique _) reads

/-! ## Any JSON value -/

/-- The values that a JSON value stands for: none for null, one for any other scalar, and those of its
items for an array. -/
inductive StandsFor : Json.Value → List Value → Prop
  | null : StandsFor .null []
  | scalar {j : Json.Value} {v : Value} : j ≠ .null → Reads False j v → StandsFor j [v]
  | array {items : List Json.Value} {vs : List Value} :
    List.Forall₂ (Reads (Widened items)) items vs → StandsFor (.array items) vs

theorem ofJson_eq_error_iff {j : Json.Value} {e : MergeError} : ofJson j = .error e ↔
    ∃ shown, j.firstNested? = some shown ∧ e = .coercionFailure (notAValue shown) := by
  cases j with
  | array items =>
    have array : ofJson (.array items) = ofJsonArray items := rfl
    rw [array, Json.Value.firstNested?]
    obtain ⟨item, found, refused⟩ | ⟨found, p, held, -⟩ := ofJsonArray_cases items
    · simp [refused, found, eq_comm]
    · simp [held, found]
  | object members =>
    have refused : ofJson (.object members) =
        .error (.coercionFailure (notAValue (.object members))) := rfl
    simp [refused, Json.Value.firstNested?, eq_comm]
  | _ => simp [ofJson, scalar, Except.map, Json.Value.firstNested?]

theorem standsFor_of_ofJson {j : Json.Value} {p : Payload} {element : ElementType}
    (held : ofJson j = .ok p) (other : element ≠ .character) :
    ∃ vs, p.toValues element = .ok vs ∧ StandsFor j vs := by
  cases j with
  | null =>
    cases held
    exact ⟨[], rfl, .null⟩
  | bool b =>
    cases held
    exact ⟨_, rfl, .scalar nofun .bool⟩
  | number n =>
    have simple : (Json.Value.number n).isNested = false := rfl
    obtain ⟨v, read, reads⟩ := exists_scalar simple
    have single : ofJson (.number n) = (scalar (.number n)).map fun v => .values [v] := rfl
    rw [single, read] at held
    cases held
    exact ⟨[v], rfl, .scalar nofun reads⟩
  | string s =>
    cases held
    exact ⟨_, toValues_text other, .scalar nofun .string⟩
  | array items =>
    have array : ofJson (.array items) = ofJsonArray items := rfl
    rw [array] at held
    obtain ⟨item, -, refused⟩ | ⟨-, q, same, keeps⟩ := ofJsonArray_cases items
    · rw [refused] at held
      cases held
    · rw [same] at held
      cases held
      obtain ⟨vs, read, reads⟩ := keeps element other
      exact ⟨vs, read, .array reads⟩
  | object => cases held

theorem exists_firstNested?_iff {j : Json.Value} : (∃ shown, j.firstNested? = some shown) ↔
    (∃ members, j = .object members) ∨
      ∃ items, j = .array items ∧ ∃ item ∈ items, item.isNested = true := by
  cases j with
  | array items => simp [Json.Value.firstNested?, ← Option.isSome_iff_exists]
  | _ => simp [Json.Value.firstNested?]

/-- **JSON values keep every item in place, and only nested data is refused.**  An object is refused, and
an array that holds an array or an object, of which the first is shown; nothing else is.  All others
give, for every type but characters, no value for null, one for another scalar, and for an array one for
each item in order.  Strings, truth values and nulls stay what they are; a number is a 64-bit integer if
it can be one, unless it stands in an array of numbers of which one cannot. -/
theorem ofJson_keeps (j : Json.Value) :
    ((∃ e, ofJson j = .error e) ↔ (∃ members, j = .object members) ∨
      ∃ items, j = .array items ∧ ∃ item ∈ items, item.isNested = true) ∧
    (∀ e, ofJson j = .error e ↔
      ∃ shown, j.firstNested? = some shown ∧ e = .coercionFailure (notAValue shown)) ∧
    (j.firstNested? = none → ∃ p, ofJson j = .ok p ∧ ∀ element, element ≠ .character →
      ∃ vs, p.toValues element = .ok vs ∧ StandsFor j vs) := by
  refine ⟨?_, fun e => ofJson_eq_error_iff, fun simple => ?_⟩
  · rw [← exists_firstNested?_iff]
    simp only [ofJson_eq_error_iff]
    constructor
    · rintro ⟨-, shown, found, -⟩
      exact ⟨shown, found⟩
    · rintro ⟨shown, found⟩
      exact ⟨_, shown, found, rfl⟩
  · cases held : ofJson j with
    | error e =>
      obtain ⟨shown, found, -⟩ := ofJson_eq_error_iff.1 held
      rw [simple] at found
      cases found
    | ok p => exact ⟨p, rfl, fun element => standsFor_of_ofJson held⟩

/-- One number beyond 64 bits with a sign makes its neighbour a binary number. -/
theorem ofJson_keeps_numbers :
    let j : Json.Value := .array [.number (.unsigned 9223372036854775808), .number (.negative (-5))]
    j.firstNested? = none ∧ ∃ p, ofJson j = .ok p ∧ ∃ vs, p.toValues .long = .ok vs ∧
      StandsFor j vs ∧ vs = [.double (.ofInt 9223372036854775808), .double (.ofInt (-5))] := by
  intro j
  obtain ⟨p, held, gives⟩ := (ofJson_keeps j).2.2 rfl
  obtain ⟨vs, read, stands⟩ := gives .long nofun
  cases held
  cases read
  exact ⟨rfl, _, rfl, _, rfl, stands, rfl⟩

end Payload

end ObjectGraph
