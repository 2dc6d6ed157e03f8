import Mathlib.Algebra.Group.Nat.Defs
import ObjectGraph.Proofs.Text.Decimal
import ObjectGraph.Toml.Document

/-!
# Lines of TOML documents

A line holds an entry for the current table, a header, or nothing.  Where names stand without quotes,
numbers with their decimal digits and texts as they are between double quotes, each line is read up to
its end, and what follows does not matter.

* `Toml.value?_toDigits`, `Toml.value?_plain`: numbers and texts as values.
* `Toml.Document.lines?_entry`, `Toml.Document.lines?_header`: what a line does to the document.
-/

namespace ObjectGraph.Toml

open Text (isDigit digitsValue)

theorem isBlank_eq_false {c : Char} (space : c ≠ ' ') (tab : c ≠ '\t') : isBlank c = false := by
  rw [isBlank, decide_eq_false space, decide_eq_false tab]
  rfl

/-! ## Integers at the end of a line -/

section Integers

variable {digits behind rest : List Char} {c : Char} {n count low high fuel depth : Nat}

theorem after?_line (run : ∀ c ∈ digits, isDigit c = true) (digit : isDigit c = false)
    (newline : c ≠ '\n') : after? c (digits ++ '\n' :: rest) = none := by
  cases digits with
  | nil => exact if_neg newline
  | cons d digits => exact if_neg (Text.ne_of_isDigit (run d List.mem_cons_self) digit).symm

/-- Digits of a fixed number do not reach over the end of the line. -/
theorem exists_of_fixedDigits? (run : ∀ c ∈ digits, isDigit c = true)
    (read : fixedDigits? count (digits ++ '\n' :: rest) = some (n, behind)) :
    ∃ others, (∀ c ∈ others, isDigit c = true) ∧ behind = others ++ '\n' :: rest := by
  unfold fixedDigits? at read
  dsimp only at read
  split_ifs at read with fits
  cases read
  have within : count ≤ digits.length := by
    by_contra long
    have newline : '\n' ∈ (digits ++ '\n' :: rest).take count := by
      obtain ⟨more, rfl⟩ := Nat.exists_eq_add_of_lt (Nat.lt_of_not_le long)
      rw [Nat.add_assoc, List.take_length_add_append, List.take_succ_cons]
      exact List.mem_append_right _ List.mem_cons_self
    have digit := List.all_eq_true.1 fits.2 _ newline
    cases digit
  exact ⟨digits.drop count, fun c member => run c (List.mem_of_mem_drop member),
    List.drop_append_of_le_length within⟩

theorem exists_of_twoDigits? (run : ∀ c ∈ digits, isDigit c = true)
    (read : twoDigits? low high (digits ++ '\n' :: rest) = some (n, behind)) :
    ∃ others, (∀ c ∈ others, isDigit c = true) ∧ behind = others ++ '\n' :: rest := by
  obtain ⟨⟨m, left⟩, fixed, checked⟩ := Option.bind_eq_some_iff.1 read
  dsimp only at checked
  split_ifs at checked
  cases checked
  exact exists_of_fixedDigits? run fixed

/-- Digits alone are no date and no time, for want of the mark behind the first of them. -/
theorem moment?_line (run : ∀ c ∈ digits, isDigit c = true) :
    moment? (digits ++ '\n' :: rest) = none := by
  have date : date? (digits ++ '\n' :: rest) = none := by
    unfold date?
    cases year : fixedDigits? 4 (digits ++ '\n' :: rest) with
    | none => rfl
    | some read =>
      obtain ⟨others, othersRun, left⟩ := exists_of_fixedDigits? run year
      show (after? '-' read.2).bind _ = none
      rw [left, after?_line othersRun rfl (by decide)]
      rfl
  have time : time? (digits ++ '\n' :: rest) = none := by
    unfold time?
    cases hour : twoDigits? 0 23 (digits ++ '\n' :: rest) with
    | none => rfl
    | some read =>
      obtain ⟨others, othersRun, left⟩ := exists_of_twoDigits? run hour
      show (after? ':' read.2).bind _ = none
      rw [left, after?_line othersRun rfl (by decide)]
      rfl
  rw [moment?, date]
  dsimp only
  rw [time]
  rfl

theorem digitRun?_line (nonempty : digits ≠ []) (run : ∀ c ∈ digits, isDigit c = true) :
    digitRun? isDigit (digits ++ '\n' :: rest) = some (digits, '\n' :: rest) := by
  induction digits with
  | nil => exact absurd rfl nonempty
  | cons c digits ih =>
    obtain ⟨digit, others⟩ := List.forall_mem_cons.1 run
    rw [List.cons_append, digitRun?.eq_def]
    dsimp only
    rw [if_pos digit]
    cases digits with
    | nil => rfl
    | cons d digits =>
      obtain ⟨second, -⟩ := List.forall_mem_cons.1 others
      rw [List.cons_append]
      -- the patterns with an underscore come before the one with another character
      split
      · next front =>
        cases (List.cons.inj front).1
        cases second
      · next front =>
        cases (List.cons.inj front).1
        cases second
      · next front =>
        obtain ⟨rfl, rfl⟩ := List.cons.inj front
        rw [if_pos second, ← List.cons_append, ih (List.cons_ne_nil d digits) others]
        rfl
      · next front => cases front

section First

variable {cs : List Char} (digit : isDigit c = true)

include digit

theorem sign_of_isDigit : sign (c :: cs) = (false, c :: cs) := by
  unfold sign
  split
  · next front => cases front; cases digit
  · next front => cases front; cases digit
  · rfl

theorem special?_of_isDigit : special? (c :: cs) = none := by
  rw [special?, sign_of_isDigit digit]
  split
  · next front => cases front; cases digit
  · next front => cases front; cases digit
  · rfl

/-- A value that starts with a digit is a number or a point in time. -/
theorem value?_of_isDigit (fuel depth : Nat) :
    value? (fuel + 1) depth (c :: cs) = numeric? (c :: cs) := by
  have other {d : Char} (mark : isDigit d = false) : c ≠ d := Text.ne_of_isDigit digit mark
  rw [value?, if_neg (not_or.2 ⟨other rfl, other rfl⟩), if_neg (other rfl), if_neg (other rfl),
    if_neg (other rfl), if_neg (other rfl)]

end First

theorem decimalRun?_toDigits (n : Nat) (rest : List Char) :
    decimalRun? (Nat.toDigits 10 n ++ '\n' :: rest) = some (Nat.toDigits 10 n, '\n' :: rest) := by
  rcases Nat.eq_zero_or_pos n with rfl | positive
  · rfl
  · obtain ⟨first, others, written, -, zero⟩ := Text.exists_toDigits_eq_cons n
    have read : digitRun? isDigit (Nat.toDigits 10 n ++ '\n' :: rest) =
        some (Nat.toDigits 10 n, '\n' :: rest) :=
      digitRun?_line Nat.toDigits_ne_nil fun c => Text.isDigit_of_mem_toDigits
    unfold decimalRun?
    split
    · next front =>
      rw [written] at front
      have none := zero (List.cons.inj front).1
      omega
    · exact read

theorem fractional?_toDigits (n : Nat) (rest : List Char) :
    fractional? (Nat.toDigits 10 n ++ '\n' :: rest) = none := by
  obtain ⟨first, others, written, digit, -⟩ := Text.exists_toDigits_eq_cons n
  have read := decimalRun?_toDigits n rest
  rw [written, List.cons_append] at read ⊢
  rw [fractional?, sign_of_isDigit digit]
  show (decimalRun? _).bind _ = none
  rw [read]
  rfl

theorem integer?_toDigits (small : n < 2 ^ 63) (rest : List Char) :
    integer? (Nat.toDigits 10 n ++ '\n' :: rest) =
      some (.integer (Int64.ofInt n), '\n' :: rest) := by
  rcases Nat.eq_zero_or_pos n with rfl | positive
  · rfl
  · obtain ⟨first, others, written, digit, zero⟩ := Text.exists_toDigits_eq_cons n
    have read := decimalRun?_toDigits n rest
    have value := Text.digitsValue_toDigits n
    have fits : integerOf? false (digitsValue 0 (Nat.toDigits 10 n)) =
        some (.integer (Int64.ofInt n)) := by
      rw [value]
      exact if_pos small
    have other : first ≠ '0' := fun same => Nat.ne_of_gt positive (zero same)
    rw [written, List.cons_append] at read ⊢
    unfold integer?
    -- without a zero in front there is no mark of another base
    split
    · next front => exact absurd (List.cons.inj front).1 other
    · next front => exact absurd (List.cons.inj front).1 other
    · next front => exact absurd (List.cons.inj front).1 other
    · rw [sign_of_isDigit digit]
      show (decimalRun? _).bind _ = _
      rw [read]
      show (integerOf? false (digitsValue 0 (first :: others))).bind _ = _
      rw [← written, fits]
      rfl

theorem numeric?_toDigits (small : n < 2 ^ 63) (rest : List Char) :
    numeric? (Nat.toDigits 10 n ++ '\n' :: rest) =
      some (.integer (Int64.ofInt n), '\n' :: rest) := by
  obtain ⟨first, others, written, digit, -⟩ := Text.exists_toDigits_eq_cons n
  have special : special? (Nat.toDigits 10 n ++ '\n' :: rest) = none := by
    rw [written]
    exact special?_of_isDigit digit
  rw [numeric?, moment?_line fun c => Text.isDigit_of_mem_toDigits, fractional?_toDigits, special,
    integer?_toDigits small]
  rfl

theorem value?_toDigits (small : n < 2 ^ 63) (fuel depth : Nat) (rest : List Char) :
    value? (fuel + 1) depth (Nat.toDigits 10 n ++ '\n' :: rest) =
      some (.integer (Int64.ofInt n), '\n' :: rest) := by
  obtain ⟨first, others, written, digit, -⟩ := Text.exists_toDigits_eq_cons n
  have number := numeric?_toDigits small rest
  rw [written, List.cons_append] at number ⊢
  rw [value?_of_isDigit digit, number]

theorem isBlank_head?_toDigits (n : Nat) (rest : List Char) :
    ∀ c ∈ (Nat.toDigits 10 n ++ rest).head?, isBlank c = false := by
  obtain ⟨first, others, written, digit, -⟩ := Text.exists_toDigits_eq_cons n
  rw [written]
  rintro c ⟨⟩
  exact isBlank_eq_false (Text.ne_of_isDigit digit rfl) (Text.ne_of_isDigit digit rfl)

end Integers

/-! ## Texts -/

/-- A text that stands between double quotes as it is, and is not taken for the start of a text of
several lines. -/
def IsPlain (text : String) : Prop := text.toList ≠ [] ∧ text.toList.all isBasicChar = true

instance (text : String) : Decidable (IsPlain text) := inferInstanceAs (Decidable (_ ∧ _))

section Texts

variable {cs rest : List Char} {text : String}

theorem basicText?_plain {fuel : Nat} (plain : ∀ c ∈ cs, isBasicChar c = true)
    (enough : cs.length < fuel) : basicText? fuel (cs ++ '"' :: rest) = some (cs, rest) := by
  induction cs generalizing fuel with
  | nil =>
    obtain ⟨fuel, rfl⟩ := Nat.exists_eq_succ_of_ne_zero (Nat.ne_of_gt enough)
    rfl
  | cons c cs ih =>
    obtain ⟨fuel, rfl⟩ := Nat.exists_eq_succ_of_ne_zero (Nat.ne_of_gt (Nat.zero_lt_of_lt enough))
    obtain ⟨basic, others⟩ := List.forall_mem_cons.1 plain
    have other {d : Char} (mark : isBasicChar d = false) : c ≠ d := Text.ne_of_kind basic mark
    rw [List.cons_append, basicText?, if_neg (other rfl), if_neg (other rfl), if_pos basic,
      ih others (Nat.lt_of_succ_lt_succ enough)]
    rfl

theorem value?_plain (plain : IsPlain text) (fuel depth : Nat) (rest : List Char) :
    value? (fuel + 1) depth ('"' :: (text.toList ++ '"' :: rest)) = some (.text text, rest) := by
  obtain ⟨nonempty, allBasic⟩ := plain
  have basic := List.all_eq_true.1 allBasic
  have read : text? ('"' :: (text.toList ++ '"' :: rest)) = some (text, rest) := by
    have enough : text.toList.length < (text.toList ++ '"' :: rest).length + 1 := by
      rw [List.length_append]
      omega
    rw [text?.eq_def]
    dsimp only
    split
    -- an empty text is left out, so that the second character is not a quote
    · next front =>
      obtain ⟨c, others, written⟩ := List.exists_cons_of_ne_nil nonempty
      rw [written] at front basic
      have first := basic c List.mem_cons_self
      rw [(List.cons.inj (List.cons.inj front).2).1] at first
      cases first
    · next front =>
      obtain ⟨-, rfl⟩ := List.cons.inj front
      rw [basicText?_plain basic enough, Option.map_some, String.ofList_toList]
    · next front => cases (List.cons.inj front).1
    · next front => cases (List.cons.inj front).1
    · next _ other _ _ => exact absurd rfl (other _)
  rw [value?, if_pos (.inl rfl), read]
  rfl

end Texts

/-! ## Bare keys -/

/-- A name that stands for itself as a key. -/
def IsBare (name : String) : Prop := name.toList ≠ [] ∧ name.toList.all isBareChar = true

instance (name : String) : Decidable (IsBare name) := inferInstanceAs (Decidable (_ ∧ _))

namespace IsBare

variable {name : String} {rest behind : List Char} {mark : Char}

theorem isBareChar_of_mem (bare : IsBare name) : ∀ c ∈ name.toList, isBareChar c = true :=
  List.all_eq_true.1 bare.2

/-- A bare name has a first character, which is no blank and no mark. -/
theorem exists_cons (bare : IsBare name) : ∃ c cs, name.toList = c :: cs ∧ isBlank c = false ∧
    ∀ d, isBareChar d = false → c ≠ d := by
  obtain ⟨c, cs, written⟩ := List.exists_cons_of_ne_nil bare.1
  have first : isBareChar c = true := bare.isBareChar_of_mem c (written ▸ List.mem_cons_self)
  have other (d : Char) (mark : isBareChar d = false) : c ≠ d := Text.ne_of_kind first mark
  exact ⟨c, cs, written, isBlank_eq_false (other _ rfl) (other _ rfl), other⟩

theorem skipBlanks_append (bare : IsBare name) (rest : List Char) :
    skipBlanks (name.toList ++ rest) = name.toList ++ rest := by
  obtain ⟨c, cs, written, blank, -⟩ := bare.exists_cons
  rw [written]
  exact List.dropWhile_cons_of_neg (by simp [blank])

theorem keyPart?_eq (bare : IsBare name) (stops : ∀ c ∈ rest.head?, isBareChar c = false) :
    keyPart? (name.toList ++ rest) = some (name, rest) := by
  obtain ⟨c, cs, written, -, other⟩ := bare.exists_cons
  have taken := Text.takeWhile_run bare.isBareChar_of_mem stops
  have left := Text.dropWhile_run bare.isBareChar_of_mem stops
  unfold keyPart?
  split
  · next front =>
    rw [written] at front
    exact absurd (List.cons.inj front).1 (other _ rfl)
  · next front =>
    rw [written] at front
    exact absurd (List.cons.inj front).1 (other _ rfl)
  · dsimp only
    rw [taken, left, if_neg (by simp [bare.1]), String.ofList_toList]

/-- A bare name is a key of one part, unless a point follows. -/
theorem key?_eq (bare : IsBare name) (stops : ∀ c ∈ rest.head?, isBareChar c = false)
    (next : skipBlanks rest = mark :: behind) (point : mark ≠ '.') :
    key? (name.toList ++ rest) = some (([], name), mark :: behind) := by
  have parts : keyParts? depthLimit (name.toList ++ rest) = some ([name], mark :: behind) := by
    rw [depthLimit, keyParts?.eq_def]
    dsimp only
    rw [bare.skipBlanks_append, bare.keyPart?_eq stops, Option.bind_eq_bind, Option.bind_some]
    dsimp only
    rw [next]
    split
    · next same => exact absurd (List.cons.inj same).1 point
    · rfl
  rw [key?, parts]
  rfl

end IsBare

/-! ## Lines -/

namespace Document

variable {d : Document} {root : Table} {name : String} {cs behind rest : List Char} {item : Item}

/-- An entry with a bare name ends where its value ends. -/
theorem entry?_bare (bare : IsBare name) (front : ∀ c ∈ behind.head?, isBlank c = false)
    (value : ∀ fuel, value? (fuel + 1) 0 behind = some (item, '\n' :: rest)) :
    d.entry? (name.toList ++ (" = ".toList ++ behind)) =
      (d.root.updateAt? false (Table.addEntry? [] name item) d.current).map
        fun root => ({ d with root }, rest) := by
  have key : key? (name.toList ++ (" = ".toList ++ behind)) =
      some (([], name), '=' :: ' ' :: behind) := by
    refine bare.key?_eq ?_ rfl (by decide)
    rintro c ⟨⟩
    rfl
  have skipped : skipBlanks ([' '] ++ behind) = behind :=
    Text.dropWhile_run (List.forall_mem_singleton.2 rfl) front
  unfold entry?
  rw [key]
  show (value? (2 * (skipBlanks ([' '] ++ behind)).length + 1) 0
    (skipBlanks ([' '] ++ behind))).bind _ = _
  rw [skipped, value]
  show (d.root.updateAt? false _ d.current).bind _ = _
  rw [Option.map_eq_bind]
  rfl

theorem header?_bare (bare : IsBare name) :
    d.header? ('[' :: (name.toList ++ ("]\n".toList ++ rest))) =
      (d.root.openTable? [] name).map fun root => (⟨root, [name]⟩, rest) := by
  have key : key? (name.toList ++ ("]\n".toList ++ rest)) =
      some (([], name), ']' :: '\n' :: rest) := by
    refine bare.key?_eq ?_ rfl (by decide)
    rintro c ⟨⟩
    rfl
  unfold header?
  split
  next marks =>
    split at marks
    · next twice =>
      obtain ⟨c, others, written, -, other⟩ := bare.exists_cons
      rw [written] at twice
      exact absurd (List.cons.inj (List.cons.inj twice).2).1 (other _ rfl)
    · next once =>
      cases marks
      rw [← (List.cons.inj once).2, key]
      show (d.root.openTable? _ _).bind _ = _
      rw [Option.map_eq_bind]
      rfl
    · next none => cases none

variable {fuel : Nat}

theorem lines?_entry (bare : IsBare name) (front : ∀ c ∈ behind.head?, isBlank c = false)
    (value : ∀ fuel, value? (fuel + 1) 0 behind = some (item, '\n' :: rest))
    (added : d.root.updateAt? false (Table.addEntry? [] name item) d.current = some root) :
    lines? (fuel + 1) d (name.toList ++ (" = ".toList ++ behind)) =
      lines? fuel { d with root } rest := by
  have read := entry?_bare (d := d) bare front value
  have skipped := bare.skipBlanks_append (" = ".toList ++ behind)
  obtain ⟨c, others, written, -, other⟩ := bare.exists_cons
  rw [added, written, List.cons_append] at read
  rw [written, List.cons_append] at skipped ⊢
  rw [lines?.eq_def]
  dsimp only
  rw [skipped]
  dsimp only
  rw [if_neg (not_or.2 ⟨other _ rfl, not_or.2 ⟨other _ rfl, other _ rfl⟩⟩), if_neg (other _ rfl),
    read]
  rfl

theorem lines?_header (bare : IsBare name) (opened : d.root.openTable? [] name = some root) :
    lines? (fuel + 1) d ('[' :: (name.toList ++ ("]\n".toList ++ rest))) =
      lines? fuel ⟨root, [name]⟩ rest := by
  have read : d.header? ('[' :: (name.toList ++ ("]\n".toList ++ rest))) = _ := header?_bare bare
  have skipped {cs : List Char} : skipBlanks ('[' :: cs) = '[' :: cs := rfl
  rw [opened] at read
  rw [lines?.eq_def]
  dsimp only
  rw [skipped]
  dsimp only
  rw [if_neg (by decide), if_pos rfl, read]
  rfl

theorem lines?_empty : lines? (fuel + 1) d ('\n' :: cs) = lines? fuel d cs := rfl

end Document

end ObjectGraph.Toml
