import ObjectGraph.Json.Value
import ObjectGraph.Proofs.Text.Decimal

/-!
# Strings and numbers of JSON texts

A string is written with its characters as they stand, but for quotes, backslashes and control
characters, which are escaped.  A reader finds one part for each character, and puts the same string
together.  A number without sign, point and exponent is written with its digits, and a reader finds the
same digits unless the text behind them goes on with the number.

* `exists_pieces`: what is read of a string.
* `readNumber_toDigits`, `eq_append_of_readNumber`: what is read of a number, and from which texts.
-/

namespace ObjectGraph.Json

open Text (isDigit)

/-! ## Strings -/

section Characters

variable {c e : Char} {cs : List Char} {n : Nat}

/-- How a character is written: by a short escape, by its code point, or as it stands. -/
theorem escapeChar_cases (c : Char) :
    (∃ e, Value.escapeChar c = ['\\', e] ∧ e ≠ 'u' ∧ shortEscape? e = some c) ∨
    (c < ' ' ∧ Value.escapeChar c = ['\\', 'u', '0', '0'] ++ Value.controlDigits c) ∨
    (c ≠ '"' ∧ c ≠ '\\' ∧ ¬ c < ' ' ∧ Value.escapeChar c = [c]) := by
  unfold Value.escapeChar
  split_ifs with quote backslash backspace feed newline carriage tab control
  · exact .inl ⟨_, rfl, by decide, by rw [quote]; rfl⟩
  · exact .inl ⟨_, rfl, by decide, by rw [backslash]; rfl⟩
  · exact .inl ⟨_, rfl, by decide, by rw [backspace]; rfl⟩
  · exact .inl ⟨_, rfl, by decide, by rw [feed]; rfl⟩
  · exact .inl ⟨_, rfl, by decide, by rw [newline]; rfl⟩
  · exact .inl ⟨_, rfl, by decide, by rw [carriage]; rfl⟩
  · exact .inl ⟨_, rfl, by decide, by rw [tab]; rfl⟩
  · exact .inr (.inl ⟨control, rfl⟩)
  · exact .inr (.inr ⟨quote, backslash, control, rfl⟩)

/-- What is read when a string goes on after one of its parts. -/
def continued (piece : Piece) (read : Option (List Piece × List Char)) :
    Option (List Piece × List Char) :=
  read.map fun (pieces, rest) => (piece :: pieces, rest)

theorem readPieces_quote (rest : List Char) : readPieces ('"' :: rest) = some ([], rest) := by
  rw [readPieces.eq_def]
  rfl

theorem readPieces_short (other : e ≠ 'u') (short : shortEscape? e = some c) :
    readPieces ('\\' :: e :: cs) = continued (.char c) (readPieces cs) := by
  rw [readPieces.eq_def]
  dsimp only
  rw [if_neg (by decide), if_pos rfl]
  split
  · next unit => exact absurd (List.cons.inj unit).1 other
  · next same =>
    cases same
    rw [short]
    cases readPieces cs <;> rfl
  · next none => cases none

theorem readPieces_unit {a b : Char} (unit : hexUnit? '0' '0' a b = some n) :
    readPieces ('\\' :: 'u' :: '0' :: '0' :: a :: b :: cs) =
      continued (.unit n) (readPieces cs) := by
  rw [readPieces]
  rw [if_neg (by decide), if_pos rfl, unit]
  cases readPieces cs <;> rfl

theorem readPieces_char (quote : c ≠ '"') (backslash : c ≠ '\\') (control : ¬ c < ' ') :
    readPieces (c :: cs) = continued (.char c) (readPieces cs) := by
  rw [readPieces.eq_def]
  dsimp only
  rw [if_neg quote, if_neg backslash, if_neg control]
  cases readPieces cs <;> rfl

/-- The two hexadecimal digits of a control character. -/
theorem hexUnit?_controlDigits : ∀ n < 32,
    Value.controlDigits (Char.ofNat n) = [Nat.digitChar (n / 16), Nat.digitChar (n % 16)] ∧
      hexUnit? '0' '0' (Nat.digitChar (n / 16)) (Nat.digitChar (n % 16)) = some n := by
  decide

theorem joinPieces_control (small : n < 32) (pieces : List Piece) :
    joinPieces (.unit n :: pieces) = (joinPieces pieces).map (Char.ofNat n :: ·) := by
  rw [joinPieces.eq_def]
  dsimp only
  rw [if_neg (by omega), if_neg (by omega)]

/-- A character as it is written is read as one part of a string, which stands for it. -/
theorem exists_piece (c : Char) : ∃ piece,
    (∀ cs, readPieces (Value.escapeChar c ++ cs) = continued piece (readPieces cs)) ∧
    ∀ pieces, joinPieces (piece :: pieces) = (joinPieces pieces).map (c :: ·) := by
  rcases escapeChar_cases c with ⟨e, written, other, short⟩ | ⟨control, written⟩ |
    ⟨quote, backslash, control, written⟩
  · refine ⟨.char c, fun cs => ?_, fun pieces => rfl⟩
    rw [written]
    exact readPieces_short other short
  · have small : c.toNat < 32 := by
      simpa [Char.lt_def, UInt32.lt_iff_toNat_lt] using control
    obtain ⟨digits, unit⟩ := hexUnit?_controlDigits c.toNat small
    have join := joinPieces_control small
    rw [Char.ofNat_toNat] at digits join
    refine ⟨.unit c.toNat, fun cs => ?_, join⟩
    rw [written, digits]
    exact readPieces_unit unit
  · refine ⟨.char c, fun cs => ?_, fun pieces => rfl⟩
    rw [written]
    exact readPieces_char quote backslash control

theorem readPieces_flatMap (text rest : List Char) : ∃ pieces,
    readPieces (text.flatMap Value.escapeChar ++ '"' :: rest) = some (pieces, rest) ∧
      joinPieces pieces = some text := by
  induction text with
  | nil => exact ⟨[], readPieces_quote rest, rfl⟩
  | cons c text ih =>
    obtain ⟨pieces, read, join⟩ := ih
    obtain ⟨piece, readFirst, joinFirst⟩ := exists_piece c
    refine ⟨piece :: pieces, ?_, by rw [joinFirst, join]; rfl⟩
    rw [List.flatMap_cons, List.append_assoc, readFirst, read]
    rfl

/-- **A string is read back**, whatever characters are in it. -/
theorem exists_pieces (s : String) (rest : List Char) : ∃ pieces,
    readPieces (s.toList.flatMap Value.escapeChar ++ '"' :: rest) = some (pieces, rest) ∧
      textOf? pieces = some s := by
  obtain ⟨pieces, read, join⟩ := readPieces_flatMap s.toList rest
  refine ⟨pieces, read, ?_⟩
  rw [textOf?, join]
  simp

end Characters

/-! ## Numbers -/

/-- The number as it is written: its digits, and neither a sign nor a point nor an exponent. -/
def NumberText.ofNat (n : Nat) : NumberText := ⟨false, Nat.toDigits 10 n, none, none⟩

/-- A numeral does not go on in the rest of the text. -/
def NumeralEnds (rest : List Char) : Prop :=
  ∀ c ∈ rest.head?, isDigit c = false ∧ c ≠ '.' ∧ c ≠ 'e' ∧ c ≠ 'E'

section Numerals

variable {cs rest digits : List Char} {n : Nat}

theorem numeralEnds_nil : NumeralEnds [] := by
  nofun

theorem numeralEnds_cons {c : Char}
    (other : isDigit c = false ∧ c ≠ '.' ∧ c ≠ 'e' ∧ c ≠ 'E') : NumeralEnds (c :: rest) := by
  rintro _ ⟨⟩
  exact other

/-- Spaces may follow a number. -/
theorem numeralEnds_of_spaces (spaces : ∀ c ∈ rest, isSpace c = true) : NumeralEnds rest := by
  cases rest with
  | nil => exact numeralEnds_nil
  | cons c rest =>
    have space := spaces c List.mem_cons_self
    simp only [isSpace, Bool.or_eq_true, decide_eq_true_eq, or_assoc] at space
    rcases space with rfl | rfl | rfl | rfl <;> exact numeralEnds_cons (by decide)

theorem readDigits?_append (nonempty : digits ≠ []) (run : ∀ c ∈ digits, isDigit c = true)
    (stops : ∀ c ∈ rest.head?, isDigit c = false) :
    readDigits? (digits ++ rest) = some (digits, rest) := by
  rw [readDigits?, Text.takeWhile_run run stops, Text.dropWhile_run run stops]
  exact if_neg (by simpa using nonempty)

theorem readPlaces_of_ends (ends : NumeralEnds rest) : readPlaces rest = some (none, rest) := by
  unfold readPlaces
  split
  · next cs => exact absurd rfl (ends '.' rfl).2.1
  · rfl

theorem readPower_of_ends (ends : NumeralEnds rest) : readPower rest = some (none, rest) := by
  cases rest with
  | nil => rfl
  | cons c rest =>
    obtain ⟨-, -, small, large⟩ := ends c rfl
    rw [readPower.eq_def]
    exact if_neg (by simp [small, large])

/-- Reads what is behind the sign of a number. -/
def readUnsigned (negative : Bool) (cs : List Char) : Option (NumberText × List Char) :=
  (readDigits? cs).bind fun (whole, cs) =>
    if whole.length ≠ 1 ∧ whole.head? = some '0' then none
    else (readPlaces cs).bind fun (places, cs) =>
      (readPower cs).map fun (power, cs) => (⟨negative, whole, places, power⟩, cs)

theorem readNumber_cases (cs : List Char) :
    (∃ unsigned, cs = '-' :: unsigned ∧ readNumber cs = readUnsigned true unsigned) ∨
    (cs.head? ≠ some '-' ∧ readNumber cs = readUnsigned false cs) := by
  unfold readNumber
  split
  next negative unsigned sign =>
  have read : (do
      let (whole, cs) ← readDigits? unsigned
      if whole.length ≠ 1 ∧ whole.head? = some '0' then none
      let (places, cs) ← readPlaces cs
      let (power, cs) ← readPower cs
      return (⟨negative, whole, places, power⟩, cs)) = readUnsigned negative unsigned := by
    unfold readUnsigned
    cases readDigits? unsigned with
    | none => rfl
    | some read =>
      dsimp only [Option.bind_eq_bind, Option.bind_some]
      split
      · rfl
      · cases readPlaces read.2 with
        | none => rfl
        | some read =>
          dsimp only [Option.bind_eq_bind, Option.bind_some]
          cases readPower read.2 <;> rfl
  split at sign
  · cases sign
    exact .inl ⟨_, rfl, read⟩
  · next other =>
    cases sign
    refine .inr ⟨?_, read⟩
    intro first
    cases cs with
    | nil => cases first
    | cons c cs => cases first; exact other cs rfl

theorem eq_append_of_readDigits? (read : readDigits? cs = some (digits, rest)) :
    cs = digits ++ rest ∧ digits ≠ [] ∧ ∀ c ∈ digits, isDigit c = true := by
  unfold readDigits? at read
  dsimp only at read
  split at read
  · cases read
  · next nonempty =>
    cases read
    exact ⟨List.takeWhile_append_dropWhile.symm, by simpa using nonempty,
      fun c => List.mem_takeWhile_imp⟩

theorem eq_of_readPlaces (read : readPlaces cs = some (none, rest)) : cs = rest := by
  unfold readPlaces at read
  split at read
  · simp at read
  · simpa using read

theorem eq_of_readPower (read : readPower cs = some (none, rest)) : cs = rest := by
  unfold readPower at read
  split at read
  · simpa using read
  · split at read
    · simp at read
    · simpa using read

theorem eq_append_of_readUnsigned {negative sign : Bool} {whole : List Char}
    (read : readUnsigned negative cs = some (⟨sign, whole, none, none⟩, rest)) :
    sign = negative ∧ cs = whole ++ rest ∧ whole = Nat.toDigits 10 (Text.digitsValue 0 whole) := by
  simp only [readUnsigned, Option.bind_eq_some_iff, Prod.exists] at read
  obtain ⟨digits, behind, readWhole, built⟩ := read
  split_ifs at built with zero
  simp only [Option.bind_eq_some_iff, Option.map_eq_some_iff, Prod.exists, Prod.mk.injEq,
    NumberText.mk.injEq] at built
  obtain ⟨places, later, readBehind, power, rest, readLater, ⟨rfl, rfl, rfl, rfl⟩, rfl⟩ := built
  obtain ⟨rfl, nonempty, run⟩ := eq_append_of_readDigits? readWhole
  obtain rfl := eq_of_readPlaces readBehind
  obtain rfl := eq_of_readPower readLater
  have alone : digits.head? = some '0' → digits.length = 1 :=
    fun first => by_contra fun long => zero ⟨long, first⟩
  exact ⟨rfl, rfl, Text.eq_toDigits nonempty run alone⟩

/-- **A number is read back** where nothing follows that would go on with it. -/
theorem readNumber_toDigits (n : Nat) (ends : NumeralEnds rest) :
    readNumber (Nat.toDigits 10 n ++ rest) = some (.ofNat n, rest) := by
  have whole : readDigits? (Nat.toDigits 10 n ++ rest) = some (Nat.toDigits 10 n, rest) :=
    readDigits?_append Nat.toDigits_ne_nil (fun c => Text.isDigit_of_mem_toDigits)
      fun c first => (ends c first).1
  have front : ¬ ((Nat.toDigits 10 n).length ≠ 1 ∧ (Nat.toDigits 10 n).head? = some '0') := by
    rintro ⟨long, zero⟩
    rw [Text.eq_zero_of_head?_toDigits zero] at long
    exact long rfl
  rcases readNumber_cases (Nat.toDigits 10 n ++ rest) with ⟨unsigned, sign, -⟩ | ⟨-, read⟩
  · obtain ⟨first, others, written, digit, -⟩ := Text.exists_toDigits_eq_cons n
    rw [written] at sign
    cases sign
    cases digit
  · rw [read, readUnsigned, whole]
    dsimp only [Option.bind_some]
    rw [if_neg front, readPlaces_of_ends ends]
    dsimp only [Option.bind_some]
    rw [readPower_of_ends ends]
    rfl

/-- What is read as an unsigned number without point and exponent is one as it is written. -/
theorem eq_append_of_readNumber {digits : List Char}
    (read : readNumber cs = some (⟨false, digits, none, none⟩, rest)) :
    cs = digits ++ rest ∧ digits = Nat.toDigits 10 (Text.digitsValue 0 digits) := by
  rcases readNumber_cases cs with ⟨unsigned, -, signed⟩ | ⟨-, unsigned⟩
  · rw [signed] at read
    cases (eq_append_of_readUnsigned read).1
  · rw [unsigned] at read
    exact (eq_append_of_readUnsigned read).2

end Numerals

end ObjectGraph.Json
