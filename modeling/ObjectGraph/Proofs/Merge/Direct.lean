import ObjectGraph.Proofs.Coercion.Steady
import ObjectGraph.Proofs.Merge.Arrange
import ObjectGraph.Proofs.Value.Direct

/-!
# Merges look through stand-ins

If the coercion does not tell a stand-in from its object, then no merge does: the objects themselves
may be put in the place of all stand-ins before a merge or after it.

* `Coercion.standard_seesThrough`: the standard rules do not tell them apart.
* `MergePolicy.merge_direct`: neither does a merge, whether it succeeds or fails.
* `MergePolicy.pairwise_apart_of_merge`: where repetitions are not kept, an object is held once at
  most, through whichever handle.
-/

namespace ObjectGraph

namespace Coercion

/-- Stand-ins are converted, or refused, as the objects themselves are. -/
def SeesThrough (c : Coercion) : Prop :=
  ∀ t v, c t v.direct = (c t v).map Value.direct

/-- Only a handle is converted to a handle. -/
theorem standard_plain {t : ElementType} {v w : Value} (plain : ∀ h, v ≠ .entity h)
    (done : standard t v = .ok w) : ∀ h, w ≠ .entity h := by
  rintro h rfl
  cases settled_of_standard done with
  | any =>
    rw [standard_any] at done
    exact plain h (Except.ok.inj done)
  | entity =>
    cases v with
    | entity g => exact plain g rfl
    | _ => cases done

theorem standard_seesThrough : standard.SeesThrough := by
  intro t v
  by_cases plain : ∀ h, v ≠ .entity h
  · rw [Value.direct_of_plain plain]
    cases done : standard t v with
    | error e => rfl
    | ok w =>
      have same : w.direct = w := Value.direct_of_plain (standard_plain plain done)
      exact congrArg Except.ok same.symm
  · simp only [not_forall, not_not] at plain
    obtain ⟨h, rfl⟩ := plain
    cases t with
    | _ => rfl

end Coercion

namespace Payload

/-- The payload with the objects themselves in the place of stand-ins. -/
def direct : Payload → Payload
  | .values items => .values (items.map Value.direct)
  | p => p

theorem firstCharacters_plain {texts : List String} {vs : List Value}
    (read : firstCharacters texts = .ok vs) : vs.map Value.direct = vs := by
  induction texts generalizing vs with
  | nil =>
    cases read
    rfl
  | cons s rest ih =>
    rw [firstCharacters] at read
    split at read
    · cases read
    · cases tail : firstCharacters rest with
      | error e =>
        rw [tail] at read
        cases read
      | ok ws =>
        rw [tail] at read
        cases read
        rw [List.map_cons, ih tail]
        rfl

/-- What a payload stands for is read in the same way. -/
theorem toValues_direct (p : Payload) (element : ElementType) :
    p.direct.toValues element = (p.toValues element).map (List.map Value.direct) := by
  have plain {α : Type} (make : α → Value) (items : List α)
      (stays : ∀ a, (make a).direct = make a) :
      (.ok (items.map make) : Except MergeError (List Value)) =
        Except.map (List.map Value.direct) (.ok (items.map make)) := by
    simp [Except.map, Function.comp_def, stays]
  cases p with
  | absent => rfl
  | values items => rfl
  | booleans items => exact plain .boolean items fun _ => rfl
  | integers items => exact plain .integer items fun _ => rfl
  | longs items => exact plain .long items fun _ => rfl
  | floats items => exact plain .float items fun _ => rfl
  | doubles items => exact plain .double items fun _ => rfl
  | characters items => exact plain .character items fun _ => rfl
  | text s =>
    simp only [direct, toValues]
    split
    · exact plain .character s.toList fun _ => rfl
    · rfl
  | strings items =>
    simp only [direct, toValues]
    split
    · cases read : firstCharacters items with
      | error e => rfl
      | ok vs => exact congrArg Except.ok (firstCharacters_plain read).symm
    · exact plain .string items fun _ => rfl

end Payload

namespace MergePolicy

variable {r : MergePolicy} {shape : Shape} {element : ElementType}

theorem containerOf_direct (shape : Shape) (vs : List Value) :
    containerOf shape (vs.map Value.direct) = (containerOf shape vs).map Container.direct := by
  rw [containerOf, containerOf, Container.ofValues?_direct]
  cases Container.ofValues? shape vs with
  | none => rfl
  | some c => rfl

theorem convertAll_direct (sees : r.coercion.SeesThrough) (vs : List Value) :
    r.convertAll element (vs.map Value.direct) =
      (r.convertAll element vs).map (List.map Value.direct) := by
  induction vs with
  | nil => rfl
  | cons v vs ih =>
    rw [List.map_cons, convertAll, convertAll, sees, ih]
    cases r.coercion element v with
    | error e => rfl
    | ok w =>
      cases r.convertAll element vs with
      | error e => rfl
      | ok ws => rfl

theorem combined_direct (current new : List Value) :
    r.combined shape (current.map Value.direct) (new.map Value.direct) =
      (r.combined shape current new).map Value.direct := by
  rw [combined, combined, ← List.map_append]
  split
  · rfl
  · exact Value.firstOccurrences_direct _

theorem fresh_direct (sees : r.coercion.SeesThrough) (new : List Value) :
    r.fresh shape element (new.map Value.direct) =
      (r.fresh shape element new).map Container.direct := by
  rw [fresh, fresh, convertAll_direct sees]
  cases r.convertAll element new with
  | error e => rfl
  | ok ws => exact containerOf_direct shape ws

theorem joined_direct (sees : r.coercion.SeesThrough) (current new : List Value) :
    r.joined shape element (current.map Value.direct) (new.map Value.direct) =
      (r.joined shape element current new).map Container.direct := by
  rw [joined, joined, convertAll_direct sees, convertAll_direct sees]
  cases r.convertAll element current with
  | error e => rfl
  | ok cs =>
    cases r.convertAll element new with
    | error e => rfl
    | ok ns =>
      have built := containerOf_direct shape (r.combined shape cs ns)
      rw [← combined_direct] at built
      exact built

theorem mergeValues_direct (sees : r.coercion.SeesThrough) (new : List Value)
    (current : Option Container) :
    r.mergeValues shape element (new.map Value.direct) (current.map Container.direct) =
      (r.mergeValues shape element new current).map Container.direct := by
  cases current with
  | none =>
    simp only [mergeValues, Option.map_none, List.isEmpty_map]
    split
    · exact containerOf_direct shape []
    · exact fresh_direct sees new
  | some held =>
    simp only [mergeValues, Option.map_some, List.isEmpty_map, Container.hasShape_direct,
      Container.values_direct, Container.isEmpty_direct]
    split
    · split
      · rfl
      · exact containerOf_direct shape held.values
    · split
      · exact fresh_direct sees new
      · exact joined_direct sees held.values new

/-- **A merge does not tell stand-ins from objects.**  With the objects themselves in the place of all
stand-ins it fails with the same error, or succeeds with the same container up to that. -/
theorem merge_direct (sees : r.coercion.SeesThrough) (shape : Shape) (element : ElementType)
    (new : Payload) (current : Option Container) :
    r.merge shape element new.direct (current.map Container.direct) =
      (r.merge shape element new current).map Container.direct := by
  rw [merge, merge, Payload.toValues_direct]
  split
  · rfl
  · cases new.toValues element with
    | error e => rfl
    | ok vs => exact mergeValues_direct sees vs current

/-- Payloads and containers that differ in stand-ins only are merged alike. -/
theorem merge_congr_direct (sees : r.coercion.SeesThrough) {new new' : Payload}
    {current current' : Option Container} (payloads : new.direct = new'.direct)
    (containers : current.map Container.direct = current'.map Container.direct) :
    (r.merge shape element new current).map Container.direct =
      (r.merge shape element new' current').map Container.direct := by
  rw [← merge_direct sees, ← merge_direct sees, payloads, containers]

/-! ## Repetitions of an object -/

/-- Putting values in order keeps them apart. -/
theorem pairwise_apart_arrange (shape : Shape) {vs : List Value} (apart : vs.Pairwise Value.Apart) :
    (shape.arrange vs).Pairwise Value.Apart := by
  cases shape with
  | sortedSet =>
    have sorted : (Value.sort vs).Pairwise Value.Apart :=
      apart.perm (Value.perm_sort vs).symm Value.Apart.symm
    exact sorted.sublist (Value.dropRepeats_sublist _)
  | set => exact apart.sublist (Value.firstOccurrences_sublist vs)
  | iterable => exact apart.sublist (Value.firstOccurrences_sublist vs)
  | _ => exact apart

/-- **A union holds no object twice.**  If both sides have values and repetitions are not kept, no two
members of the result are handles to one object. -/
theorem pairwise_apart_of_merge {new : Payload} {vs : List Value} {current merged : Container}
    (once : r.keepsRepetitions shape = false) (held : current.values ≠ [])
    (read : new.toValues element = .ok vs) (brought : vs ≠ [])
    (success : r.merge shape element new (some current) = .ok merged) :
    merged.values.Pairwise Value.Apart := by
  have supported : shape ≠ .map := by
    rintro rfl
    cases success
  have held' : Container.heldBy (some current) ≠ [] := held
  rw [merge_of_toValues supported read, mergeValues_of_some_held brought held'] at success
  obtain ⟨-, built⟩ := joined_eq_ok_iff.1 success
  obtain ⟨-, values⟩ := values_of_containerOf supported built
  have notKept : ¬ r.keepsRepetitions shape = true := by rw [once]; exact Bool.false_ne_true
  rw [values, combined, if_neg notKept]
  exact pairwise_apart_arrange shape
    ((Value.pairwise_firstOccurrences _).imp Value.apart_of_sameMember)

end MergePolicy

end ObjectGraph
