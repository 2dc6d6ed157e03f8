import ObjectGraph.Coercion

/-!
# Coercion to the declared type

The standard rules are a projection: what they give is of the declared type, and what is of the type
already they leave alone.  Null is of no type but passes for every one.

* `Value.isOf`: whether a value is of a declared type.
* `Coercion.ends_standard`: a conversion ends with a value of the type, or with a refusal that names
  the type and shows the value.
* `Coercion.standard_integer_long`: numbers are narrowed to themselves or not at all.
* `Coercion.standard_projects`: the rules as a projection.
-/

namespace ObjectGraph

/-- Whether a value is of a declared type.  Of an enumeration it names a declared variant; related
objects may be of a subtype, so the type of an object is not looked at. -/
def Value.isOf : Value → ElementType → Bool
  | _, .any => true
  | .boolean _, .boolean => true
  | .integer _, .integer => true
  | .long _, .long => true
  | .float _, .float => true
  | .double _, .double => true
  | .character _, .character => true
  | .string _, .string => true
  | .enum typeName variant, .enum e => typeName = e.name && e.hasVariant variant
  | .entity _, .entity _ => true
  | _, _ => false

namespace Coercion

variable {t : ElementType} {v w : Value}

theorem standard_any (v : Value) : standard .any v = .ok v := by
  cases v with
  | _ => rfl

theorem standard_null (t : ElementType) : standard t .null = .ok .null := by
  cases t with
  | _ => rfl

/-! ## How a conversion ends -/

/-- With a value of the declared type, or with a refusal that names the type and shows the value. -/
inductive Ends (t : ElementType) (v : Value) : Except Refusal Value → Prop
  | converted {w : Value} : w.isOf t = true → Ends t v (.ok w)
  | refused (reason : RefusalReason) : Ends t v (.error (refuse t v reason))

theorem ends_readTrimmed {α : Type} {read : List Char → Except ReadError α} {make : α → Value}
    (typed : ∀ a, (make a).isOf t = true) (s : String) :
    Ends t (.string s) (readTrimmed t read make s) := by
  unfold readTrimmed
  split
  · next a _ => exact .converted (typed a)
  · exact .refused _

theorem ends_ite {p : Prop} [Decidable p] {reason : RefusalReason} (typed : p → w.isOf t = true) :
    Ends t v (if p then .ok w else .error (refuse t v reason)) := by
  split
  · next holds => exact .converted (typed holds)
  · exact .refused reason

theorem ends_standard (present : v ≠ .null) : Ends t v (standard t v) := by
  cases t with
  | any =>
    rw [standard_any]
    exact .converted (by cases v <;> rfl)
  | boolean =>
    cases v with
    | null => exact absurd rfl present
    | boolean => exact .converted rfl
    | string s => exact ends_readTrimmed (fun _ => rfl) s
    | _ => exact .refused _
  | integer =>
    cases v with
    | null => exact absurd rfl present
    | integer => exact .converted rfl
    | long => exact ends_ite fun _ => rfl
    | string s => exact ends_readTrimmed (fun _ => rfl) s
    | _ => exact .refused _
  | long =>
    cases v with
    | null => exact absurd rfl present
    | integer | long => exact .converted rfl
    | string s => exact ends_readTrimmed (fun _ => rfl) s
    | _ => exact .refused _
  | float =>
    cases v with
    | null => exact absurd rfl present
    | float | integer | long => exact .converted rfl
    | double =>
      simp only [standard]
      split
      · exact .refused _
      · exact .converted rfl
    | string s => exact ends_readTrimmed (fun _ => rfl) s
    | _ => exact .refused _
  | double =>
    cases v with
    | null => exact absurd rfl present
    | double | float | integer | long => exact .converted rfl
    | string s => exact ends_readTrimmed (fun _ => rfl) s
    | _ => exact .refused _
  | character =>
    cases v with
    | null => exact absurd rfl present
    | character => exact .converted rfl
    | string =>
      simp only [standard]
      split
      · exact .converted rfl
      · exact .refused _
    | _ => exact .refused _
  | string =>
    cases v with
    | null => exact absurd rfl present
    | string | character | enum => exact .converted rfl
    | _ => exact .refused _
  | enum e =>
    cases v with
    | null => exact absurd rfl present
    | enum => exact ends_ite fun declared => by simpa [Value.isOf] using declared
    | string => exact ends_ite fun declared => by simpa [Value.isOf] using declared
    | _ => exact .refused _
  | entity =>
    cases v with
    | null => exact absurd rfl present
    | entity => exact .converted rfl
    | _ => exact .refused _

theorem isOf_of_standard (present : v ≠ .null) (done : standard t v = .ok w) : w.isOf t = true := by
  have ends : Ends t v (.ok w) := done ▸ ends_standard present
  cases ends with
  | converted typed => exact typed

theorem exists_refuse_of_standard {e : Refusal} (failed : standard t v = .error e) :
    ∃ reason, e = refuse t v reason := by
  have present : v ≠ .null := by
    rintro rfl
    rw [standard_null] at failed
    cases failed
  have ends : Ends t v (.error e) := failed ▸ ends_standard present
  cases ends with
  | refused reason => exact ⟨reason, rfl⟩

/-! ## What stays as it is -/

/-- A value of the declared type is not changed. -/
theorem standard_of_isOf (typed : v.isOf t = true) : standard t v = .ok v := by
  cases t with
  | any => exact standard_any v
  | enum e =>
    cases v with
    | enum typeName variant =>
      have declared : typeName = e.name ∧ e.hasVariant variant = true := by
        simpa [Value.isOf] using typed
      exact if_pos declared
    | _ => cases typed
  | _ =>
    cases v with
    | _ => first | rfl | cases typed

/-- A number in the narrower range is narrowed to itself, and no other number is narrowed. -/
theorem standard_integer_long {l : Int64} :
    standard .integer (.long l) = .ok w ↔ ∃ i : Int32, w = .integer i ∧ i.toInt = l.toInt := by
  have narrowing : standard .integer (.long l) =
      if Int32.minValue.toInt ≤ l.toInt ∧ l.toInt ≤ Int32.maxValue.toInt then
        .ok (.integer (Int32.ofInt l.toInt))
      else .error (refuse .integer (.long l) .overflow) := rfl
  rw [narrowing]
  constructor
  · intro narrowed
    split at narrowed
    · next range =>
      have largest : Int32.maxValue.toInt = 2 ^ 31 - 1 := by decide
      cases narrowed
      exact ⟨_, rfl, Int32.toInt_ofInt_of_le range.1 (by omega)⟩
    · cases narrowed
  · rintro ⟨i, rfl, same⟩
    rw [← same, if_pos ⟨i.minValue_le_toInt, i.toInt_le⟩, Int32.ofInt_toInt]

/-! ## The projection -/

/-- **The standard rules project onto the declared type.**  Null passes, and so does everything where
nothing is declared; a value of the type is not changed; any other value becomes one of the type, which
stays what it is from then on, or the refusal names the type and shows the value.  Whole numbers of
both widths keep their number, and those outside the narrower range are refused there. -/
theorem standard_projects (t : ElementType) (v : Value) :
    (v = .null ∨ t = .any → standard t v = .ok v) ∧
    (v.isOf t = true → standard t v = .ok v) ∧
    (∀ w, v ≠ .null → standard t v = .ok w → w.isOf t = true ∧ standard t w = .ok w) ∧
    (∀ e, standard t v = .error e → e.target = t.name ∧ e.value = v.display) ∧
    (∀ i : Int32, ∃ l : Int64, standard .long (.integer i) = .ok (.long l) ∧ l.toInt = i.toInt) ∧
    (∀ (l : Int64) (w : Value), standard .integer (.long l) = .ok w ↔
      ∃ i : Int32, w = .integer i ∧ i.toInt = l.toInt) ∧
    (∀ l : Int64, l.toInt < Int32.minValue.toInt ∨ Int32.maxValue.toInt < l.toInt →
      ∃ e, standard .integer (.long l) = .error e) := by
  refine ⟨?_, standard_of_isOf, fun w present done => ?_, fun e failed => ?_,
    fun i => ⟨_, rfl, i.toInt_toInt64⟩, fun l w => standard_integer_long, fun l outside => ?_⟩
  · rintro (rfl | rfl)
    · exact standard_null t
    · exact standard_any v
  · have typed := isOf_of_standard present done
    exact ⟨typed, standard_of_isOf typed⟩
  · obtain ⟨reason, rfl⟩ := exists_refuse_of_standard failed
    exact ⟨rfl, rfl⟩
  · cases narrowed : standard .integer (.long l) with
    | error e => exact ⟨e, rfl⟩
    | ok w =>
      obtain ⟨i, -, same⟩ := standard_integer_long.1 narrowed
      have low := i.minValue_le_toInt
      have high := i.toInt_le
      omega

/-- A text that names a declared variant becomes it, and a variant that is not declared is refused. -/
theorem standard_projects_enum :
    let colour : Enumeration := ⟨"Colour", ["RED", "BLUE"]⟩
    let red : Value := .enum "Colour" "RED"
    standard (.enum colour) (.string "RED") = .ok red ∧ red.isOf (.enum colour) = true ∧
      standard (.enum colour) red = .ok red ∧
      ∃ e, standard (.enum colour) (.enum "Colour" "GREEN") = .error e ∧
        e.target = "Colour" ∧ e.value = "Colour::GREEN" := by
  intro colour red
  have done : standard (.enum colour) (.string "RED") = .ok red := rfl
  obtain ⟨-, -, project, -⟩ := standard_projects (.enum colour) (.string "RED")
  obtain ⟨typed, kept⟩ := project red nofun done
  obtain ⟨-, -, -, refused, -⟩ := standard_projects (.enum colour) (.enum "Colour" "GREEN")
  exact ⟨done, typed, kept, _, rfl, refused _ rfl⟩

end Coercion

end ObjectGraph
