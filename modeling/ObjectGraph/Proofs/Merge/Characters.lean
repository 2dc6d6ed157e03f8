import ObjectGraph.Merge
import ObjectGraph.Proofs.Payload.Json

/-!
# Characters in all the forms that a store has for them

A sequence of characters is stored as such, as one text, as an array of texts, as an array of values,
and in JSON as a string or an array of strings.  Where characters are wanted all these stand for the
same values, and a merge looks at nothing else; of a text in an array only the first character
counts.

* `Payload.toValues_spells`: the values of each form.
* `MergePolicy.merge_characters`: merging does not tell the forms apart.
-/

namespace ObjectGraph

namespace Payload

/-- Each text starts with its character, whatever follows. -/
def Initials (texts : List String) (cs : List Char) : Prop :=
  List.Forall₂ (fun s c => s.toList.head? = some c) texts cs

/-- The forms of a sequence of characters. -/
inductive Spells (cs : List Char) : Payload → Prop
  | characters : Spells cs (.characters cs)
  | text : Spells cs (.text (String.ofList cs))
  | values : Spells cs (.values (cs.map .character))
  | strings {texts : List String} : Initials texts cs → Spells cs (.strings texts)

variable {cs : List Char} {texts : List String} {p : Payload}

theorem initials_singletons (cs : List Char) : Initials (cs.map String.singleton) cs := by
  rw [Initials, List.forall₂_map_left_iff, List.forall₂_same]
  intro c _
  simp

theorem firstCharacters_of_initials (initials : Initials texts cs) :
    firstCharacters texts = .ok (cs.map .character) := by
  induction initials with
  | nil => rfl
  | cons first _ ih =>
    obtain ⟨rest, characters⟩ := List.head?_eq_some_iff.1 first
    rw [firstCharacters, characters]
    dsimp only
    rw [ih]
    rfl

/-- All forms stand for the same values. -/
theorem toValues_spells (spells : Spells cs p) :
    p.toValues .character = .ok (cs.map .character) := by
  cases spells with
  | characters => rfl
  | text => simp [toValues, ElementType.isCharacter]
  | values => rfl
  | strings initials => exact firstCharacters_of_initials initials

/-! ## In JSON -/

theorem ofJson_strings (nonempty : texts ≠ []) :
    ofJson (.array (texts.map .string)) = .ok (.strings texts) := by
  have some_items : ¬ (texts.map Json.Value.string).isEmpty = true := by simpa using nonempty
  have probed : (texts.map Json.Value.string).mapM Json.Value.asString? = some texts := by
    rw [mapM_eq_some_iff, List.forall₂_map_left_iff, List.forall₂_same]
    exact fun _ _ => rfl
  have array : ofJson (.array (texts.map .string)) = ofJsonArray (texts.map .string) := rfl
  rw [array, ofJsonArray, if_neg some_items, probed]

/-- An array without texts is held in another form, and stands for no characters either. -/
theorem exists_ofJson_strings (initials : Initials texts cs) :
    ∃ p, ofJson (.array (texts.map .string)) = .ok p ∧ Spells cs p := by
  rcases eq_or_ne texts [] with rfl | nonempty
  · cases initials
    exact ⟨.values [], rfl, .values⟩
  · exact ⟨.strings texts, ofJson_strings nonempty, .strings initials⟩

end Payload

namespace MergePolicy

/-- A merge looks at nothing of a payload but its values. -/
theorem merge_congr_values (r : MergePolicy) (shape : Shape) {element : ElementType}
    {new other : Payload} (same : new.toValues element = other.toValues element)
    (current : Option Container) :
    r.merge shape element new current = r.merge shape element other current := by
  rw [merge, merge, same]

theorem merge_spells (r : MergePolicy) (shape : Shape) (current : Option Container) {cs : List Char}
    {new other : Payload} (left : new.Spells cs) (right : other.Spells cs) :
    r.merge shape .character new current = r.merge shape .character other current :=
  r.merge_congr_values shape
    ((Payload.toValues_spells left).trans (Payload.toValues_spells right).symm) current

/-- **Merging does not tell the forms of characters apart.**  Whatever the coercion, the shape, the mode
and the current container, the result or the error is the same for the characters as such, as a text,
as values and as an array of texts that start with them, and for the text and the array in JSON.  Texts
of one character each are such an array. -/
theorem merge_characters (r : MergePolicy) (shape : Shape) (current : Option Container)
    (cs : List Char) :
    let merged (new : Payload) := r.merge shape .character new current
    (∀ new : Payload, new.Spells cs → merged new = merged (.characters cs)) ∧
    (∃ new, Payload.ofJson (.string (String.ofList cs)) = .ok new ∧
      merged new = merged (.characters cs)) ∧
    (∀ texts, Payload.Initials texts cs → ∃ new,
      Payload.ofJson (.array (texts.map .string)) = .ok new ∧ merged new = merged (.characters cs)) ∧
    Payload.Initials (cs.map String.singleton) cs := by
  intro merged
  refine ⟨fun new spells => ?_, ⟨_, rfl, ?_⟩, fun texts initials => ?_,
    Payload.initials_singletons cs⟩
  · exact r.merge_spells shape current spells .characters
  · exact r.merge_spells shape current .text .characters
  · obtain ⟨new, held, spells⟩ := Payload.exists_ofJson_strings initials
    exact ⟨new, held, r.merge_spells shape current spells .characters⟩

/-- Longer texts in an array, of which only the first characters count. -/
theorem merge_characters_longer :
    let held : Container := .list [.character 'b']
    Payload.Initials ["bc", "\u00e9", "b"] ['b', '\u00e9', 'b'] ∧ ∃ new,
      Payload.ofJson (.array [.string "bc", .string "\u00e9", .string "b"]) = .ok new ∧
      merge {} .list .character new (some held) =
        .ok (.list [.character 'b', .character '\u00e9']) := by
  intro held
  have initials : Payload.Initials ["bc", "\u00e9", "b"] ['b', '\u00e9', 'b'] :=
    .cons rfl (.cons rfl (.cons rfl .nil))
  obtain ⟨-, -, arrays, -⟩ :=
    merge_characters {} .list (some held) ['b', '\u00e9', 'b']
  obtain ⟨new, read, same⟩ := arrays _ initials
  exact ⟨initials, new, read, same.trans rfl⟩

end MergePolicy

end ObjectGraph
