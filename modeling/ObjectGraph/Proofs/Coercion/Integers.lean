import ObjectGraph.Proofs.Coercion.Projection
import ObjectGraph.Proofs.Text.Numeral
import ObjectGraph.Proofs.Text.Trimmed

/-!
# Integers from text

A text is read at either width as the numeral between its blanks.  The two readers stop at different
digits and count negative numbers by a limit of their own, but where both end with a number it is the
same one, and the narrower reader ends with one just where the wider one does and its number is
narrowed.

* `Coercion.readTrimmed_integer_eq_ok_iff`: which texts are read at some width.
* `Coercion.standard_reads_integers`: the texts of 64-bit integers, and the 32-bit ones among them.
-/

namespace ObjectGraph

open Text (Trimmed)

/-! ## The two ranges -/

variable {n : Int}

theorem inWidth_32_iff : InWidth 32 n ↔ Int32.minValue.toInt ≤ n ∧ n ≤ Int32.maxValue.toInt := by
  have power : Nat.pow 2 (32 - 1) = 2147483648 := rfl
  have least : Int32.minValue.toInt = -2147483648 := rfl
  have largest : Int32.maxValue.toInt = 2147483647 := rfl
  unfold InWidth
  omega

theorem inWidth_64_iff : InWidth 64 n ↔ Int64.minValue.toInt ≤ n ∧ n ≤ Int64.maxValue.toInt := by
  have power : Nat.pow 2 (64 - 1) = 9223372036854775808 := rfl
  have least : Int64.minValue.toInt = -9223372036854775808 := rfl
  have largest : Int64.maxValue.toInt = 9223372036854775807 := rfl
  unfold InWidth
  omega

theorem InWidth.widen (within : InWidth 32 n) : InWidth 64 n := by
  have narrow : Nat.pow 2 (32 - 1) = 2147483648 := rfl
  have wide : Nat.pow 2 (64 - 1) = 9223372036854775808 := rfl
  unfold InWidth at *
  omega

theorem InWidth.toInt_ofInt32 (within : InWidth 32 n) : (Int32.ofInt n).toInt = n :=
  Int32.toInt_ofInt_of_le within.1 within.2

theorem InWidth.toInt_ofInt64 (within : InWidth 64 n) : (Int64.ofInt n).toInt = n :=
  Int64.toInt_ofInt_of_le within.1 within.2

theorem inWidth_toInt (i : Int32) : InWidth 32 i.toInt :=
  inWidth_32_iff.2 ⟨i.minValue_le_toInt, i.toInt_le⟩

/-! ## Reading -/

namespace Coercion

variable {t : ElementType} {s : String} {w : Value}

theorem readTrimmed_eq_ok_iff {α : Type} {read : List Char → Except ReadError α}
    {make : α → Value} : readTrimmed t read make s = .ok w ↔
      ∃ a, read (Text.trimChars s.toList) = .ok a ∧ w = make a := by
  unfold readTrimmed
  cases read (Text.trimChars s.toList) with
  | error e => simp
  | ok a => simp [eq_comm]

/-- A text is read as an integer if it is a numeral between blanks whose number fits the width. -/
theorem readTrimmed_integer_eq_ok_iff {width : Nat} {make : Int → Value} :
    readTrimmed t (readInteger width) make s = .ok w ↔ ∃ core n, Trimmed s.toList core ∧
      Numeral core n ∧ InWidth width n ∧ w = make n := by
  simp only [readTrimmed_eq_ok_iff, readInteger_eq_ok_iff, Text.trimmed_iff]
  constructor
  · rintro ⟨n, ⟨numeral, within⟩, made⟩
    exact ⟨_, n, rfl, numeral, within, made⟩
  · rintro ⟨core, n, rfl, numeral, within, made⟩
    exact ⟨n, ⟨numeral, within⟩, made⟩

theorem standard_long_string_eq_ok_iff : standard .long (.string s) = .ok w ↔
    ∃ core n, Trimmed s.toList core ∧ Numeral core n ∧ InWidth 64 n ∧ w = .long (Int64.ofInt n) :=
  readTrimmed_integer_eq_ok_iff

theorem standard_integer_string_eq_ok_iff : standard .integer (.string s) = .ok w ↔
    ∃ core n, Trimmed s.toList core ∧ Numeral core n ∧ InWidth 32 n ∧
      w = .integer (Int32.ofInt n) :=
  readTrimmed_integer_eq_ok_iff

/-- **Integers are read from numerals, and at both widths alike.**  A text is read as a 64-bit integer
if between its blanks stands a numeral whose number fits 64 bits, and then as that number.  It is read
as a 32-bit integer if it is read as a 64-bit one that is narrowed, and then as the same number. -/
theorem standard_reads_integers (s : String) :
    (∀ w, standard .long (.string s) = .ok w ↔ ∃ core n, ∃ l : Int64, Trimmed s.toList core ∧
      Numeral core n ∧ Int64.minValue.toInt ≤ n ∧ n ≤ Int64.maxValue.toInt ∧ l.toInt = n ∧
      w = .long l) ∧
    (∀ w, standard .integer (.string s) = .ok w ↔ ∃ (l : Int64) (i : Int32),
      standard .long (.string s) = .ok (.long l) ∧
      standard .integer (.long l) = .ok (.integer i) ∧ i.toInt = l.toInt ∧ w = .integer i) := by
  refine ⟨fun w => ?_, fun w => ?_⟩
  · rw [standard_long_string_eq_ok_iff]
    constructor
    · rintro ⟨core, n, trimmed, numeral, within, rfl⟩
      obtain ⟨low, high⟩ := inWidth_64_iff.1 within
      exact ⟨core, n, _, trimmed, numeral, low, high, within.toInt_ofInt64, rfl⟩
    · rintro ⟨core, n, l, trimmed, numeral, low, high, rfl, rfl⟩
      exact ⟨core, _, trimmed, numeral, inWidth_64_iff.2 ⟨low, high⟩, by rw [Int64.ofInt_toInt]⟩
  · rw [standard_integer_string_eq_ok_iff]
    constructor
    · rintro ⟨core, n, trimmed, numeral, within, rfl⟩
      have same : (Int32.ofInt n).toInt = (Int64.ofInt n).toInt := by
        rw [within.toInt_ofInt32, within.widen.toInt_ofInt64]
      exact ⟨_, _, standard_long_string_eq_ok_iff.2
        ⟨core, n, trimmed, numeral, within.widen, rfl⟩,
        standard_integer_long.2 ⟨_, rfl, same⟩, same, rfl⟩
    · rintro ⟨l, i, read, -, same, rfl⟩
      obtain ⟨core, n, trimmed, numeral, within, made⟩ := standard_long_string_eq_ok_iff.1 read
      cases made
      rw [within.toInt_ofInt64] at same
      subst same
      exact ⟨core, _, trimmed, numeral, inWidth_toInt i, by rw [Int32.ofInt_toInt]⟩

/-- The least 64-bit number has no positive counterpart, and the 32-bit range ends one earlier. -/
example : standard .long (.string "\u00a0-009223372036854775808\n") = .ok (.long Int64.minValue) ∧
    standard .long (.string "+9223372036854775808") =
      .error (refuse .long (.string "+9223372036854775808") (.unreadable .tooLarge)) ∧
    standard .integer (.string " -2147483649 ") =
      .error (refuse .integer (.string " -2147483649 ") (.unreadable .tooSmall)) :=
  ⟨rfl, rfl, rfl⟩

end Coercion

end ObjectGraph
