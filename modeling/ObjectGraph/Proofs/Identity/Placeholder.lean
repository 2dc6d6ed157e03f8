import Mathlib.Algebra.Group.Nat.Defs
import Mathlib.Logic.Function.Basic
import ObjectGraph.Identity.EntityId

/-!
# Placeholders and addresses

The placeholder of an address is mixed from it in five steps, loses one bit, and is then counted down
from minus one.  Every step of the mixing can be undone: a word that was folded onto itself is unfolded
by the same shifts once more, and a multiplication by the inverse of the factor.  So the mixing is a
permutation of the words, and the bit that is lost is all that addresses can have in common.

* `mixWord_bijective`: the mixing is undone by `unmixWord`.
* `countDown_exact`: the arithmetic of a placeholder stays within 64 bits.
* `placeholder_of_two`: the placeholders are the negative numbers, each of them of two addresses.
-/

namespace ObjectGraph

/-! ## Steps of the mixing -/

/-- The exclusive or of a word with its own upper bits. -/
def foldWord (k z : UInt64) : UInt64 := z ^^^ (z >>> k)

/-- Undoes `foldWord` if three shifts leave nothing of a word. -/
def unfoldWord (k z : UInt64) : UInt64 := z ^^^ (z >>> k) ^^^ (z >>> (k + k))

theorem xor_shiftRight (y z k : UInt64) : (y ^^^ z) >>> k = (y >>> k) ^^^ (z >>> k) := by
  apply UInt64.toBitVec_inj.1
  simp only [UInt64.toBitVec_shiftRight, UInt64.toBitVec_xor, BitVec.ushiftRight_eq',
    BitVec.ushiftRight_xor_distrib]

section Shifts

variable {k : UInt64} (narrow : k.toNat + k.toNat < 64) (wide : 64 ≤ k.toNat + k.toNat + k.toNat)

include narrow

theorem toNat_shiftRight_narrow (z : UInt64) : (z >>> k).toNat = z.toNat >>> k.toNat := by
  rw [UInt64.toNat_shiftRight, Nat.mod_eq_of_lt (by omega)]

theorem toNat_shiftRight_double (z : UInt64) :
    (z >>> (k + k)).toNat = z.toNat >>> (k.toNat + k.toNat) := by
  have double : (k + k).toNat = k.toNat + k.toNat := by
    rw [UInt64.toNat_add]
    omega
  rw [UInt64.toNat_shiftRight, double, Nat.mod_eq_of_lt narrow]

theorem shiftRight_twice (z : UInt64) : z >>> k >>> k = z >>> (k + k) := by
  apply UInt64.toNat_inj.1
  rw [toNat_shiftRight_narrow narrow, toNat_shiftRight_narrow narrow, toNat_shiftRight_double narrow,
    Nat.shiftRight_add]

include wide

/-- Three shifts leave nothing of a word. -/
theorem shiftRight_thrice (z : UInt64) : z >>> (k + k) >>> k = 0 := by
  have small : z.toNat < 2 ^ (k.toNat + k.toNat + k.toNat) :=
    Nat.lt_of_lt_of_le z.toNat_lt (Nat.pow_le_pow_right (by decide) wide)
  apply UInt64.toNat_inj.1
  rw [toNat_shiftRight_narrow narrow, toNat_shiftRight_double narrow, ← Nat.shiftRight_add]
  exact Nat.shiftRight_eq_zero _ _ small

theorem unfoldWord_foldWord (z : UInt64) : unfoldWord k (foldWord k z) = z := by
  have once : foldWord k z >>> k = (z >>> k) ^^^ (z >>> (k + k)) := by
    rw [foldWord, xor_shiftRight, shiftRight_twice narrow]
  have twice : foldWord k z >>> (k + k) = z >>> (k + k) := by
    rw [← shiftRight_twice narrow, once, xor_shiftRight, shiftRight_twice narrow,
      shiftRight_thrice narrow wide, UInt64.xor_zero]
  -- Each shift of the word is there twice.
  rw [unfoldWord, once, twice, foldWord, UInt64.xor_assoc, UInt64.xor_assoc (z >>> k),
    UInt64.xor_self, UInt64.xor_zero, UInt64.xor_assoc, UInt64.xor_self, UInt64.xor_zero]

theorem foldWord_unfoldWord (z : UInt64) : foldWord k (unfoldWord k z) = z := by
  have once : unfoldWord k z >>> k = (z >>> k) ^^^ (z >>> (k + k)) := by
    rw [unfoldWord, xor_shiftRight, xor_shiftRight, shiftRight_twice narrow,
      shiftRight_thrice narrow wide, UInt64.xor_zero]
  rw [foldWord, once, unfoldWord, UInt64.xor_assoc z, UInt64.xor_assoc, UInt64.xor_self,
    UInt64.xor_zero]

end Shifts

/-- Multiplications by two words undo each other if the product of these is one. -/
theorem mul_inverse {m n : UInt64} (inverse : m * n = 1) (z : UInt64) : z * m * n = z := by
  rw [UInt64.mul_assoc, inverse, UInt64.mul_one]

/-! ## The mixing as a whole -/

/-- The word from which a word is mixed. -/
def unmixWord (z : UInt64) : UInt64 :=
  unfoldWord 30 (unfoldWord 27 (unfoldWord 31 z * 0x319642b2d24d8ec3) * 0x96de1b173f119089)

/-- The steps of the mixing, each by its name. -/
theorem mixWord_eq (z : UInt64) :
    mixWord z =
      foldWord 31 (foldWord 27 (foldWord 30 z * 0xbf58476d1ce4e5b9) * 0x94d049bb133111eb) :=
  rfl

theorem unmixWord_mixWord (z : UInt64) : unmixWord (mixWord z) = z := by
  rw [mixWord_eq, unmixWord, unfoldWord_foldWord (by decide) (by decide), mul_inverse (by decide),
    unfoldWord_foldWord (by decide) (by decide), mul_inverse (by decide),
    unfoldWord_foldWord (by decide) (by decide)]

theorem mixWord_unmixWord (z : UInt64) : mixWord (unmixWord z) = z := by
  rw [mixWord_eq, unmixWord, foldWord_unfoldWord (by decide) (by decide), mul_inverse (by decide),
    foldWord_unfoldWord (by decide) (by decide), mul_inverse (by decide),
    foldWord_unfoldWord (by decide) (by decide)]

/-- **The mixing is a permutation of the words.** -/
theorem mixWord_bijective : Function.Bijective mixWord :=
  Function.bijective_iff_has_inverse.2 ⟨unmixWord, unmixWord_mixWord, mixWord_unmixWord⟩

theorem mixWord_eq_iff {a z : UInt64} : mixWord a = z ↔ a = unmixWord z := by
  constructor
  · rintro rfl
    exact (unmixWord_mixWord a).symm
  · rintro rfl
    exact mixWord_unmixWord z

/-! ## The arithmetic -/

theorem toNat_half (z : UInt64) : (z >>> 1).toNat = z.toNat / 2 := by
  rw [UInt64.toNat_shiftRight]
  exact Nat.shiftRight_eq_div_pow _ 1

/-- The last bit is all that halves lose. -/
theorem half_eq_iff {z : UInt64} {n : Nat} (small : n < 2 ^ 63) :
    (z >>> 1).toNat = n ↔ z = UInt64.ofNat (2 * n) ∨ z = UInt64.ofNat (2 * n + 1) := by
  rw [toNat_half, ← UInt64.toNat_inj, ← UInt64.toNat_inj,
    UInt64.toNat_ofNat_of_lt' (show 2 * n < 2 ^ 64 by omega),
    UInt64.toNat_ofNat_of_lt' (show 2 * n + 1 < 2 ^ 64 by omega)]
  omega

/-- Counting down from minus one does not overflow if the word is a signed number. -/
theorem countDown_exact {z : UInt64} (small : z.toNat < 2 ^ 63) :
    z.toInt64.toInt = z.toNat ∧ (-z.toInt64).toInt = -(z.toNat : Int) ∧
      (-z.toInt64 - 1).toInt = -(z.toNat : Int) - 1 := by
  have read : z.toInt64.toInt = z.toNat :=
    BitVec.toInt_eq_toNat_of_lt (show 2 * z.toNat < 2 ^ 64 by omega)
  have negated : (-z.toInt64).toInt = -(z.toNat : Int) := by
    rw [Int64.toInt_neg, read]
    exact Int.bmod_eq_of_le (by omega) (by omega)
  have one : (1 : Int64).toInt = 1 := rfl
  refine ⟨read, negated, ?_⟩
  rw [Int64.toInt_sub, negated, one]
  exact Int.bmod_eq_of_le (by omega) (by omega)

theorem half_mixWord_lt (a : UInt64) : (mixWord a >>> 1).toNat < 2 ^ 63 := by
  have word := (mixWord a).toNat_lt
  rw [toNat_half]
  omega

theorem toInt_placeholder (a : UInt64) :
    (placeholder a).toInt = -((mixWord a >>> 1).toNat : Int) - 1 :=
  (countDown_exact (half_mixWord_lt a)).2.2

/-! ## Negative numbers and their addresses -/

theorem placeholder_neg (a : UInt64) : placeholder a < 0 := by
  rw [Int64.lt_iff_toInt_lt, toInt_placeholder]
  show _ < (0 : Int)
  omega

/-- A placeholder is never mistaken for an identity. -/
theorem placeholder_ne_raw (a : UInt64) (id : EntityId) : placeholder a ≠ id.raw := by
  intro same
  have below := placeholder_neg a
  rw [same] at below
  have above := id.nonneg
  rw [Int64.lt_iff_toInt_lt] at below
  rw [Int64.le_iff_toInt_le] at above
  omega

/-- Addresses share a placeholder exactly if their mixed words agree but for the last bit. -/
theorem placeholder_eq_iff_half {a b : UInt64} :
    placeholder a = placeholder b ↔ mixWord a >>> 1 = mixWord b >>> 1 := by
  rw [← Int64.toInt_inj, toInt_placeholder, toInt_placeholder, ← UInt64.toNat_inj]
  omega

/-- The addresses of a placeholder are those of two words that differ in the last bit. -/
theorem placeholder_eq_iff {a : UInt64} {p : Int64} {n : Nat} (counted : p.toInt = -(n : Int) - 1)
    (small : n < 2 ^ 63) : placeholder a = p ↔
      a = unmixWord (UInt64.ofNat (2 * n)) ∨ a = unmixWord (UInt64.ofNat (2 * n + 1)) := by
  rw [← mixWord_eq_iff, ← mixWord_eq_iff, ← half_eq_iff small, ← Int64.toInt_inj, toInt_placeholder,
    counted]
  omega

/-- **Placeholders are the negative numbers, each of two addresses.**  The placeholder of an address is
computed without overflow in any of its operations.  It is negative and so no identity.  The mixing of
addresses is a permutation of the words, and two addresses share a placeholder exactly if their mixed
words differ in the last bit at most.  Every negative number is the placeholder of exactly two
addresses. -/
theorem placeholder_of_two :
    (∀ a, let half := mixWord a >>> 1
      half.toInt64.toInt = half.toNat ∧ (-half.toInt64).toInt = -(half.toNat : Int) ∧
        (placeholder a).toInt = -(half.toNat : Int) - 1) ∧
    (∀ a, placeholder a < 0 ∧ ∀ id : EntityId, placeholder a ≠ id.raw) ∧
    Function.Bijective mixWord ∧
    (∀ a b, placeholder a = placeholder b ↔ mixWord a >>> 1 = mixWord b >>> 1) ∧
    ∀ p < 0, ∃ a b, a ≠ b ∧ ∀ c, placeholder c = p ↔ c = a ∨ c = b := by
  refine ⟨fun a => countDown_exact (half_mixWord_lt a),
    fun a => ⟨placeholder_neg a, placeholder_ne_raw a⟩, mixWord_bijective,
    fun a b => placeholder_eq_iff_half, fun p negative => ?_⟩
  have least := p.le_toInt
  have below : p.toInt < 0 := Int64.lt_iff_toInt_lt.1 negative
  obtain ⟨n, counted⟩ := Int.eq_ofNat_of_zero_le (show 0 ≤ -p.toInt - 1 by omega)
  have small : n < 2 ^ 63 := by omega
  refine ⟨unmixWord (UInt64.ofNat (2 * n)), unmixWord (UInt64.ofNat (2 * n + 1)), fun same => ?_,
    fun c => placeholder_eq_iff (by omega) small⟩
  have words : UInt64.ofNat (2 * n) = UInt64.ofNat (2 * n + 1) := by
    rw [← mixWord_unmixWord (UInt64.ofNat (2 * n)), same, mixWord_unmixWord]
  rw [← UInt64.toNat_inj, UInt64.toNat_ofNat_of_lt' (show 2 * n < 2 ^ 64 by omega),
    UInt64.toNat_ofNat_of_lt' (show 2 * n + 1 < 2 ^ 64 by omega)] at words
  omega

/-- Also the least number, which has no negation, is the placeholder of two addresses. -/
theorem placeholder_of_two_least :
    ∃ a b, a ≠ b ∧ ∀ c, placeholder c = Int64.minValue ↔ c = a ∨ c = b := by
  obtain ⟨-, -, -, -, twice⟩ := placeholder_of_two
  exact twice Int64.minValue (by decide)

end ObjectGraph
