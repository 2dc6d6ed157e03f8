import Mathlib.Algebra.Group.Nat.Defs
import Mathlib.Data.List.Basic
import ObjectGraph.Proofs.Text.Numeral
import ObjectGraph.Proofs.Text.Trimmed

/-!
# The digits of a number, and the words that hold it

Numbers are written with their decimal digits and no zero in front.  Their digits are read back as
the number, and no other digits without a zero in front are.

A word of 64 bits is read as a number with a sign or without one.  The two readings agree below the
middle of the unsigned range, and the signed one is negative above it.

* `Text.digitsValue_toDigits`: the number that the digits of a number stand for.
* `Text.eq_toDigits`: digits without a zero in front are those of their number.
* `toInt64_nonneg_iff`: the words whose signed reading is not negative.
* `toNat_toUInt64`: the unsigned reading of a signed number that is not negative.
-/

namespace ObjectGraph.Text

variable {c : Char} {digits rest : List Char} {n : Nat}

theorem ne_of_isDigit {d : Char} (digit : isDigit c = true) (other : isDigit d = false) : c ≠ d :=
  ne_of_kind digit other

/-- The code points of digits. -/
theorem toNat_of_isDigit (digit : isDigit c = true) : 48 ≤ c.toNat ∧ c.toNat ≤ 57 := by
  simpa [isDigit, Char.le_def, UInt32.le_iff_toNat_le] using digit

/-! ## Reading what is written -/

theorem isDigit_of_mem_toDigits (member : c ∈ Nat.toDigits 10 n) : isDigit c = true :=
  Nat.isDigit_of_mem_toDigits (by decide) (by decide) member

theorem digitsValue_toDigits (n : Nat) : digitsValue 0 (Nat.toDigits 10 n) = n := by
  have folded : digitsValue 0 (Nat.toDigits 10 n) = Nat.ofDigitChars 10 (Nat.toDigits 10 n) 0 := by
    rw [Nat.ofDigitChars_eq_foldl, digitsValue]
    simp only [Nat.mul_comm]
  rw [folded, Nat.ofDigitChars_ten_toDigits]

/-- Only zero is written with a zero in front. -/
theorem eq_zero_of_head?_toDigits (zero : (Nat.toDigits 10 n).head? = some '0') : n = 0 := by
  induction n using Nat.strongRecOn with
  | ind n ih =>
    rcases Nat.lt_or_ge n 10 with small | large
    · rw [Nat.toDigits_of_lt_base small, List.head?_cons, Option.some.injEq] at zero
      exact Nat.digitChar_eq_zero.1 zero
    · rw [Nat.toDigits_of_base_le (by decide) large,
        List.head?_append_of_ne_nil _ Nat.toDigits_ne_nil] at zero
      have front := ih (n / 10) (by omega) zero
      omega

theorem exists_toDigits_eq_cons (n : Nat) : ∃ first others, Nat.toDigits 10 n = first :: others ∧
    isDigit first = true ∧ (first = '0' → n = 0) := by
  obtain ⟨first, others, written⟩ :=
    List.exists_cons_of_ne_nil (Nat.toDigits_ne_nil (n := n) (b := 10))
  refine ⟨first, others, written, ?_, ?_⟩
  · exact isDigit_of_mem_toDigits (written ▸ List.mem_cons_self)
  · rintro rfl
    exact eq_zero_of_head?_toDigits (by rw [written]; rfl)

/-! ## Writing what is read -/

theorem toDigits_of_isDigit (digit : isDigit c = true) :
    Nat.toDigits 10 (c.toNat - '0'.toNat) = [c] := by
  have zero : '0'.toNat = 48 := rfl
  have range := toNat_of_isDigit digit
  have same : Nat.digitChar (c.toNat - '0'.toNat) = c := by
    apply Char.toNat_inj.1
    rw [Nat.toNat_digitChar_of_lt_ten (by omega)]
    omega
  rw [Nat.toDigits_of_lt_base (by omega), same]

/-- Digits behind those of a number that is not zero. -/
theorem toDigits_append {acc : Nat} (positive : 0 < acc) (run : ∀ c ∈ digits, isDigit c = true) :
    Nat.toDigits 10 acc ++ digits = Nat.toDigits 10 (digitsValue acc digits) := by
  induction digits generalizing acc with
  | nil => exact List.append_nil _
  | cons c digits ih =>
    obtain ⟨digit, others⟩ := List.forall_mem_cons.1 run
    have zero : '0'.toNat = 48 := rfl
    have range := toNat_of_isDigit digit
    have small : c.toNat - '0'.toNat < 10 := by omega
    calc Nat.toDigits 10 acc ++ c :: digits
        = Nat.toDigits 10 acc ++ Nat.toDigits 10 (c.toNat - '0'.toNat) ++ digits := by
          rw [toDigits_of_isDigit digit, List.append_assoc, List.singleton_append]
      _ = Nat.toDigits 10 (acc * 10 + (c.toNat - '0'.toNat)) ++ digits := by
          rw [Nat.toDigits_append_toDigits (by decide) positive small, Nat.mul_comm]
      _ = Nat.toDigits 10 (digitsValue acc (c :: digits)) := by
          rw [ih (by omega) others, digitsValue_cons]

theorem eq_toDigits (nonempty : digits ≠ []) (run : ∀ c ∈ digits, isDigit c = true)
    (front : digits.head? = some '0' → digits.length = 1) :
    digits = Nat.toDigits 10 (digitsValue 0 digits) := by
  obtain ⟨c, others, rfl⟩ := List.exists_cons_of_ne_nil nonempty
  by_cases zero : c = '0'
  · subst zero
    have single : others = [] := by simpa using front rfl
    subst single
    rfl
  · obtain ⟨digit, othersRun⟩ := List.forall_mem_cons.1 run
    have range := toNat_of_isDigit digit
    have other : c.toNat ≠ '0'.toNat := fun same => zero (Char.toNat_inj.1 same)
    have positive : 0 < c.toNat - '0'.toNat := by
      have first : '0'.toNat = 48 := rfl
      omega
    rw [digitsValue_cons, Nat.zero_mul, Nat.zero_add, ← toDigits_append positive othersRun,
      toDigits_of_isDigit digit, List.singleton_append]

end ObjectGraph.Text

/-! ## Words with and without sign -/

namespace ObjectGraph

theorem ofInt_toNat (z : UInt64) : Int64.ofInt z.toNat = z.toInt64 := by
  apply Int64.toBitVec_inj.1
  rw [Int64.toBitVec_ofInt, UInt64.toBitVec_toInt64, BitVec.ofInt_natCast]
  exact BitVec.ofNat_toNat ..

theorem toInt_toInt64 (z : UInt64) :
    z.toInt64.toInt =
      if z.toNat < 2 ^ 63 then (z.toNat : Int) else (z.toNat : Int) - (2 ^ 64 : Nat) := by
  have read : z.toInt64.toInt = _ := BitVec.toInt_eq_toNat_cond z.toBitVec
  rw [UInt64.toNat_toBitVec] at read
  rw [read]
  split <;> split <;> omega

theorem toInt64_nonneg_iff {z : UInt64} : 0 ≤ z.toInt64 ↔ z.toNat < 2 ^ 63 := by
  have word := z.toNat_lt
  rw [Int64.le_iff_toInt_le, toInt_toInt64, Int64.toInt_zero]
  split <;> omega

theorem toNat_toUInt64 {i : Int64} (nonneg : 0 ≤ i) :
    (i.toUInt64.toNat : Int) = i.toInt ∧ i.toUInt64.toNat < 2 ^ 63 := by
  rw [← Int64.toInt64_toUInt64 i, toInt64_nonneg_iff] at nonneg
  have read := toInt_toInt64 i.toUInt64
  rw [if_pos nonneg, Int64.toInt64_toUInt64] at read
  exact ⟨read.symm, nonneg⟩

end ObjectGraph
