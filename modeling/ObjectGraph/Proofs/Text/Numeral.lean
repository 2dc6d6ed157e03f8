import Mathlib.Tactic.Common
import ObjectGraph.Number.Read

/-!
# Decimal numerals

`Numeral` is the grammar of decimal integers without a width: which texts are numerals, and of which
number.  A reader of a given width follows the digits and stops at the one that takes the number out
of its range, so it accepts the numerals whose number lies in the range, and no other text.

* `readDigits_eq_ok_iff`: digits are read to their number unless it exceeds the limit.
* `readInteger_eq_ok_iff`: which texts a reader of some width accepts, and as what.
-/

namespace ObjectGraph

open Text (isDigit digitValue? digitsValue)

/-- A numeral and its number: an optional sign and one or more digits, any number of zeros in
front. -/
inductive Numeral : List Char → Int → Prop
  | unsigned {digits : List Char} : digits ≠ [] → (∀ c ∈ digits, isDigit c = true) →
    Numeral digits (digitsValue 0 digits)
  | plus {digits : List Char} : digits ≠ [] → (∀ c ∈ digits, isDigit c = true) →
    Numeral ('+' :: digits) (digitsValue 0 digits)
  | minus {digits : List Char} : digits ≠ [] → (∀ c ∈ digits, isDigit c = true) →
    Numeral ('-' :: digits) (-(digitsValue 0 digits : Int))

/-- The numbers of `width` bits in two's complement. -/
def InWidth (width : Nat) (i : Int) : Prop :=
  -(Nat.pow 2 (width - 1) : Int) ≤ i ∧ i < (Nat.pow 2 (width - 1) : Int)

variable {cs : List Char} {c : Char} {limit acc n width : Nat} {overflow : ReadError} {i : Int}

/-! ## Digits -/

theorem digitsValue_cons (acc : Nat) (c : Char) (cs : List Char) :
    digitsValue acc (c :: cs) = digitsValue (acc * 10 + (c.toNat - '0'.toNat)) cs := by
  rw [digitsValue, List.foldl_cons, digitsValue]

/-- More digits make no number smaller. -/
theorem le_digitsValue (acc : Nat) (cs : List Char) : acc ≤ digitsValue acc cs := by
  induction cs generalizing acc with
  | nil => exact Nat.le_refl acc
  | cons c cs ih =>
    rw [digitsValue_cons]
    have further := ih (acc * 10 + (c.toNat - '0'.toNat))
    omega

/-- Digits are read to the number that they stand for, if it does not exceed the limit. -/
theorem readDigits_eq_ok_iff (within : acc ≤ limit) :
    readDigits limit overflow acc cs = .ok n ↔
      (∀ c ∈ cs, isDigit c = true) ∧ digitsValue acc cs = n ∧ n ≤ limit := by
  induction cs generalizing acc with
  | nil =>
    simp only [readDigits, Except.ok.injEq, List.not_mem_nil, false_imp_iff, implies_true, true_and]
    constructor
    · rintro rfl
      exact ⟨rfl, within⟩
    · exact And.left
  | cons c cs ih =>
    rw [readDigits, List.forall_mem_cons, digitsValue_cons, digitValue?]
    cases digit : isDigit c with
    | false => simp
    | true =>
      simp only [if_true, true_and]
      split
      · next exceeds =>
        -- the digits to come do not bring the number back below the limit
        have further := le_digitsValue (acc * 10 + (c.toNat - '0'.toNat)) cs
        constructor
        · nofun
        · rintro ⟨-, rfl, small⟩
          omega
      · next fits => exact ih (by omega)

/-- The same for what is made of the number. -/
theorem readDigits_map_eq_ok_iff {make : Nat → Int} :
    (readDigits limit overflow 0 cs).map make = .ok i ↔
      (∀ c ∈ cs, isDigit c = true) ∧ digitsValue 0 cs ≤ limit ∧ i = make (digitsValue 0 cs) := by
  have read (n : Nat) : readDigits limit overflow 0 cs = .ok n ↔
      (∀ c ∈ cs, isDigit c = true) ∧ digitsValue 0 cs = n ∧ n ≤ limit :=
    readDigits_eq_ok_iff limit.zero_le
  cases done : readDigits limit overflow 0 cs with
  | error e =>
    have refused := (read (digitsValue 0 cs)).not.1 (by simp [done])
    constructor
    · nofun
    · rintro ⟨digits, fits, -⟩
      exact absurd ⟨digits, rfl, fits⟩ refused
  | ok n =>
    obtain ⟨digits, rfl, fits⟩ := (read n).1 done
    rw [Except.map, Except.ok.injEq]
    exact ⟨fun made => ⟨digits, fits, made.symm⟩, fun made => made.2.2.symm⟩

/-! ## Signs -/

theorem readInteger_plus (width : Nat) (nonempty : cs ≠ []) : readInteger width ('+' :: cs) =
    (readDigits (Nat.pow 2 (width - 1) - 1) .tooLarge 0 cs).map Int.ofNat := by
  cases cs with
  | nil => exact absurd rfl nonempty
  | cons => rfl

theorem readInteger_minus (width : Nat) (nonempty : cs ≠ []) : readInteger width ('-' :: cs) =
    (readDigits (Nat.pow 2 (width - 1)) .tooSmall 0 cs).map fun n : Nat => -(n : Int) := by
  cases cs with
  | nil => exact absurd rfl nonempty
  | cons c cs =>
    simp only [readInteger]
    cases readDigits (Nat.pow 2 (width - 1)) .tooSmall 0 (c :: cs) with
    | error e => rfl
    | ok n => rfl

theorem readInteger_unsigned (width : Nat) (plus : c ≠ '+') (minus : c ≠ '-') :
    readInteger width (c :: cs) =
      (readDigits (Nat.pow 2 (width - 1) - 1) .tooLarge 0 (c :: cs)).map Int.ofNat := by
  unfold readInteger
  -- the patterns above the last are the empty text and the texts that start with a sign
  split <;> simp_all

/-! ## Ranges -/

theorem inWidth_natCast : InWidth width (n : Int) ↔ n ≤ Nat.pow 2 (width - 1) - 1 := by
  have positive : 0 < Nat.pow 2 (width - 1) := Nat.two_pow_pos _
  unfold InWidth
  omega

/-- Of the negative numbers one more is in the range. -/
theorem inWidth_neg_natCast : InWidth width (-(n : Int)) ↔ n ≤ Nat.pow 2 (width - 1) := by
  have positive : 0 < Nat.pow 2 (width - 1) := Nat.two_pow_pos _
  unfold InWidth
  omega

/-! ## Numerals -/

theorem numeral_of_readInteger (read : readInteger width cs = .ok i) :
    Numeral cs i ∧ InWidth width i := by
  rcases cs with _ | ⟨c, rest⟩
  · cases read
  by_cases plus : c = '+'
  · subst plus
    rcases eq_or_ne rest [] with rfl | nonempty
    · cases read
    rw [readInteger_plus width nonempty] at read
    obtain ⟨digits, fits, rfl⟩ := readDigits_map_eq_ok_iff.1 read
    exact ⟨.plus nonempty digits, inWidth_natCast.2 fits⟩
  by_cases minus : c = '-'
  · subst minus
    rcases eq_or_ne rest [] with rfl | nonempty
    · cases read
    rw [readInteger_minus width nonempty] at read
    obtain ⟨digits, fits, rfl⟩ := readDigits_map_eq_ok_iff.1 read
    exact ⟨.minus nonempty digits, inWidth_neg_natCast.2 fits⟩
  · rw [readInteger_unsigned width plus minus] at read
    obtain ⟨digits, fits, rfl⟩ := readDigits_map_eq_ok_iff.1 read
    exact ⟨.unsigned (List.cons_ne_nil c rest) digits, inWidth_natCast.2 fits⟩

theorem Numeral.readInteger_eq (numeral : Numeral cs i) (within : InWidth width i) :
    readInteger width cs = .ok i := by
  cases numeral with
  | unsigned nonempty digits =>
    obtain ⟨c, rest, rfl⟩ := List.exists_cons_of_ne_nil nonempty
    have ne_sign (sign : Char) (other : isDigit sign = false) : c ≠ sign := by
      rintro rfl
      rw [digits c List.mem_cons_self] at other
      cases other
    rw [readInteger_unsigned width (ne_sign '+' rfl) (ne_sign '-' rfl)]
    exact readDigits_map_eq_ok_iff.2 ⟨digits, inWidth_natCast.1 within, rfl⟩
  | plus nonempty digits =>
    rw [readInteger_plus width nonempty]
    exact readDigits_map_eq_ok_iff.2 ⟨digits, inWidth_natCast.1 within, rfl⟩
  | minus nonempty digits =>
    rw [readInteger_minus width nonempty]
    exact readDigits_map_eq_ok_iff.2 ⟨digits, inWidth_neg_natCast.1 within, rfl⟩

/-- **Integers of a width are read from the numerals whose number lies in its range.** -/
theorem readInteger_eq_ok_iff :
    readInteger width cs = .ok i ↔ Numeral cs i ∧ InWidth width i :=
  ⟨numeral_of_readInteger, fun numeral => numeral.1.readInteger_eq numeral.2⟩

end ObjectGraph
