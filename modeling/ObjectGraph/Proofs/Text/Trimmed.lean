import Mathlib.Data.List.DropRight
import ObjectGraph.Text

/-!
# Texts between blanks

A text is cut into blanks, what is left of it, and blanks.  The cut is unique, since what is left may
neither start nor end with a blank; trimming finds it.

* `Text.trimmed_iff`: trimming leaves what is between the blanks.
-/

namespace ObjectGraph.Text

/-- `cs` is blanks, then `core`, then blanks, and `core` neither starts nor ends with a blank. -/
structure Trimmed (cs core : List Char) : Prop where
  framed : ∃ before after, cs = before ++ (core ++ after) ∧
    (∀ c ∈ before, isBlank c = true) ∧ ∀ c ∈ after, isBlank c = true
  starts : ∀ c ∈ core.head?, isBlank c = false
  ends : ∀ c ∈ core.getLast?, isBlank c = false

variable {cs core rest : List Char} {p : Char → Bool}

/-! ## At the front -/

theorem ne_of_kind {c d : Char} (kind : p c = true) (other : p d = false) : c ≠ d := by
  rintro rfl
  rw [kind] at other
  cases other

/-- A run of characters of a kind ends where a character of another kind stands. -/
theorem takeWhile_run (run : ∀ c ∈ cs, p c = true) (stops : ∀ c ∈ rest.head?, p c = false) :
    (cs ++ rest).takeWhile p = cs := by
  rw [List.takeWhile_append_of_pos run]
  cases rest with
  | nil => exact List.append_nil cs
  | cons c rest => rw [List.takeWhile_cons_of_neg (by simp [stops c rfl]), List.append_nil]

theorem dropWhile_run (run : ∀ c ∈ cs, p c = true) (stops : ∀ c ∈ rest.head?, p c = false) :
    (cs ++ rest).dropWhile p = rest := by
  rw [List.dropWhile_append_of_pos run]
  cases rest with
  | nil => rfl
  | cons c rest => exact List.dropWhile_cons_of_neg (by simp [stops c rfl])

/-- Dropping blanks stops at the first character that is none. -/
theorem not_isBlank_of_mem_head? {c : Char} (first : c ∈ (cs.dropWhile isBlank).head?) :
    isBlank c = false := by
  have stopped := List.head?_dropWhile_not isBlank cs
  rw [Option.mem_def.1 first] at stopped
  exact stopped

/-! ## At both ends -/

theorem trimChars_eq_rdropWhile (cs : List Char) :
    trimChars cs = (cs.dropWhile isBlank).rdropWhile isBlank := rfl

theorem trimmed_trimChars (cs : List Char) : Trimmed cs (trimChars cs) where
  framed := by
    refine ⟨cs.takeWhile isBlank, (cs.dropWhile isBlank).rtakeWhile isBlank, ?_,
      fun c member => List.mem_takeWhile_imp member, fun c member => List.mem_rtakeWhile_imp member⟩
    rw [trimChars_eq_rdropWhile, List.rdropWhile_append_rtakeWhile,
      List.takeWhile_append_dropWhile]
  starts := by
    intro c first
    rw [trimChars_eq_rdropWhile] at first
    obtain ⟨after, whole⟩ := List.rdropWhile_prefix isBlank (cs.dropWhile isBlank)
    have opened : c ∈ (cs.dropWhile isBlank).head? := by
      rw [← whole, List.head?_append, Option.mem_def.1 first]
      rfl
    exact not_isBlank_of_mem_head? opened
  ends := by
    intro c last
    rw [trimChars, List.getLast?_reverse] at last
    exact not_isBlank_of_mem_head? last

theorem Trimmed.trimChars_eq (trimmed : Trimmed cs core) : trimChars cs = core := by
  obtain ⟨before, after, rfl, blankBefore, blankAfter⟩ := trimmed.framed
  rw [trimChars]
  by_cases empty : core = []
  · subst empty
    rw [List.dropWhile_append_of_pos blankBefore, List.nil_append,
      List.dropWhile_eq_nil_iff.2 blankAfter]
    rfl
  · have starts : ∀ c ∈ (core ++ after).head?, isBlank c = false := by
      rw [List.head?_append_of_ne_nil _ empty]
      exact trimmed.starts
    have ends : ∀ c ∈ core.reverse.head?, isBlank c = false := by
      rw [List.head?_reverse]
      exact trimmed.ends
    have blank : ∀ c ∈ after.reverse, isBlank c = true := by simpa using blankAfter
    rw [dropWhile_run blankBefore starts, List.reverse_append,
      dropWhile_run blank ends, List.reverse_reverse]

/-- **Trimming leaves what is between the blanks.** -/
theorem trimmed_iff : Trimmed cs core ↔ trimChars cs = core :=
  ⟨Trimmed.trimChars_eq, fun trimmed => trimmed ▸ trimmed_trimChars cs⟩

end ObjectGraph.Text
