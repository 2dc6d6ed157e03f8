import ObjectGraph.Number.Binary

/-!
# The fewest digits that read back

A finite number is printed with the fewest significant decimal digits from which the same number is
read again, and of those the digits nearest to it.  `Binary.shortestDigits` finds them by testing,
on ever finer decimal grids, the two neighbours of the number on the grid against the interval of
reals that round to it.

* `Binary.plainText`: positional notation without an exponent, `1` and not `1.0`.
* `Binary.scientificText`: a point and an exponent where positional notation would be long.
-/

namespace ObjectGraph

/-- Which of two equally near candidates is chosen: the one with an even last digit, or the larger. -/
inductive Tie where
  | toEven
  | away
  deriving DecidableEq, Repr

/-- A positive quotient `value / den` with the reals `low / den` to `high / den` that round to it;
`closed` says whether the ends do so too. -/
structure RoundingInterval where
  value : Nat
  low : Nat
  high : Nat
  den : Nat
  closed : Bool

namespace RoundingInterval

/-- The same interval measured in units of `10 ^ e`. -/
def onGrid (r : RoundingInterval) (e : Int) : RoundingInterval :=
  if 0 ≤ e then { r with den := r.den * Nat.pow 10 e.toNat }
  else
    let p := Nat.pow 10 (-e).toNat
    { r with value := r.value * p, low := r.low * p, high := r.high * p }

def holds (r : RoundingInterval) (n : Nat) : Bool :=
  let x := n * r.den
  if r.closed then r.low ≤ x && x ≤ r.high else r.low < x && x < r.high

/-- The natural in the interval that is nearest to its value, if any of the two neighbours of the
value lies in it. -/
def nearest? (r : RoundingInterval) (tie : Tie) : Option Nat :=
  let n := r.value / r.den
  match r.holds n, r.holds (n + 1) with
  | false, false => none
  | true, false => some n
  | false, true => some (n + 1)
  | true, true =>
    let down := 2 * (r.value - n * r.den)
    if down < r.den then some n
    else if r.den < down then some (n + 1)
    else match tie with
      | .toEven => some (if n % 2 = 0 then n else n + 1)
      | .away => some (n + 1)

/-- The first hit on the grids `10 ^ e`, `10 ^ (e - 1)`, …, as digits and the exponent of the
grid.  The search ends where `fuel` does, with the digits of the value rounded down. -/
def search (r : RoundingInterval) (tie : Tie) (e : Int) : Nat → Nat × Int
  | 0 => let g := r.onGrid e; (g.value / g.den, e)
  | fuel + 1 =>
    match (r.onGrid e).nearest? tie with
    | some n => (n, e)
    | none => r.search tie (e - 1) fuel

end RoundingInterval

namespace Binary

variable {f : Format}

/-- The reals that round to a finite number that is not zero.  Below a power of two the next number
is half as far away as above it. -/
def interval (x : Binary f) : RoundingInterval :=
  let m := x.significand
  let below := if m = Nat.pow 2 f.fraction && f.minExponent < x.exponent then 1 else 2
  let (up, den) := scaleRatio 1 1 (2 - x.exponent)
  ⟨4 * m * up, (4 * m - below) * up, (4 * m + 2) * up, den, m % 2 = 0⟩

/-- The fewest digits that read back as the finite, non-zero `x`: the value they stand for is
`digits * 10 ^ exponent`.  The first grid is coarser than the number itself. -/
def shortestDigits (tie : Tie) (x : Binary f) : Nat × Int :=
  let r := x.interval
  let bits : Int := (Nat.log2 r.value : Int) - (Nat.log2 r.den : Int) + 1
  r.search tie ((bits * 30103).fdiv 100000 + 1) f.width

def digitText (n : Nat) : List Char := Nat.toDigits 10 n

/-- The digits with the point put where the exponent says, without an exponent in the text. -/
def positional (digits : List Char) (exponent : Int) : List Char :=
  if 0 ≤ exponent then digits ++ List.replicate exponent.toNat '0'
  else
    let places := (-exponent).toNat
    if places < digits.length then
      digits.take (digits.length - places) ++ '.' :: digits.drop (digits.length - places)
    else '0' :: '.' :: List.replicate (places - digits.length) '0' ++ digits

/-- Positional notation in the fewest digits, whole numbers without a point; `inf`, `-inf` and
`NaN`, the last without its sign. -/
def plainText (x : Binary f) : String :=
  if x.isNaN then "NaN"
  else
    let body :=
      if !x.isFinite then ['i', 'n', 'f']
      else if x.significand = 0 then ['0']
      else
        let (digits, e) := x.shortestDigits .away
        positional (digitText digits) e
    String.ofList (if x.isNegative then '-' :: body else body)

/-- The fewest digits of a finite number, as JSON writes them: positional with at least one decimal
place from `0.00001` to below `10 ^ 16`, otherwise one digit before the point and an exponent with
its sign. -/
def scientificText (x : Binary f) : String :=
  let body :=
    if x.significand = 0 then ['0', '.', '0']
    else
      let (n, e) := x.shortestDigits .toEven
      let digits := digitText n
      let point : Int := (digits.length : Int) + e
      if -4 ≤ point && point ≤ 16 then
        if 0 ≤ e then positional digits e ++ ['.', '0'] else positional digits e
      else
        let tail := digits.drop 1
        let mantissa := digits.take 1 ++ (if tail.isEmpty then [] else '.' :: tail)
        let power := point - 1
        let sign := if 0 ≤ power then '+' else '-'
        mantissa ++ 'e' :: sign :: digitText power.natAbs
  String.ofList (if x.isNegative then '-' :: body else body)

end Binary

end ObjectGraph
