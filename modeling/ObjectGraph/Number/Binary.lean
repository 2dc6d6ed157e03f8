/-!
# Binary floating-point numbers as bit patterns

A number of a binary interchange format is kept as its bits, so that every NaN, both zeros and both
infinities are values like any other.  All arithmetic is exact arithmetic on naturals followed by
one rounding to the nearest number of the format, a half going to the even neighbour.  Powers are
written `Nat.pow`, which means the same whatever else is imported.

* `Binary.compare`: the total order on bit patterns, read off an injective key.
* `Binary.ofRatio`: the number of the format nearest to a quotient of naturals.
* `Binary.convert`: the same number in another format, rounded where it has to be.
-/

namespace ObjectGraph

/-- A binary interchange format: its width in bits, and how many of them hold the fraction. -/
structure Format where
  width : Nat
  fraction : Nat
  deriving DecidableEq, Repr

namespace Format

def single : Format := ⟨32, 23⟩

def double : Format := ⟨64, 52⟩

variable (f : Format)

/-- How many bits hold the exponent: what the sign and the fraction leave. -/
def exponentBits : Nat := f.width - 1 - f.fraction

/-- The amount by which a stored exponent exceeds the real one. -/
def bias : Nat := Nat.pow 2 (f.exponentBits - 1) - 1

/-- The exponent of the last place of the smallest numbers. -/
def minExponent : Int := 1 - (f.bias : Int) - (f.fraction : Int)

def signBit : Nat := Nat.pow 2 (f.width - 1)

/-- The bits of infinity without its sign; all larger magnitudes are NaNs. -/
def infinityBits : Nat := (Nat.pow 2 f.exponentBits - 1) * Nat.pow 2 f.fraction

end Format

/-- The quotient rounded to the nearest natural, a half going to the even neighbour. -/
def roundHalfEven (num den : Nat) : Nat :=
  let q := num / den
  let r := num % den
  if 2 * r < den then q
  else if den < 2 * r then q + 1
  else if q % 2 = 0 then q else q + 1

/-- The quotient divided by `2 ^ e`, again as a quotient of naturals. -/
def scaleRatio (num den : Nat) (e : Int) : Nat × Nat :=
  if 0 ≤ e then (num, den * Nat.pow 2 e.toNat) else (num * Nat.pow 2 (-e).toNat, den)

/-- The exponent of the largest power of two not above a positive quotient. -/
def binaryExponent (num den : Nat) : Int :=
  let e : Int := (Nat.log2 num : Int) - (Nat.log2 den : Int)
  let (n, d) := scaleRatio num den e
  if d ≤ n then e else e - 1

/-- A number of the format `f`, as its bits. -/
structure Binary (f : Format) where
  bits : BitVec f.width
  deriving DecidableEq

abbrev Single := Binary .single

abbrev Double := Binary .double

namespace Binary

variable {f : Format}

/-! ## Reading the bits -/

/-- Whether the sign bit is set; it may be set on zeros and NaNs too. -/
def isNegative (x : Binary f) : Bool := f.signBit ≤ x.bits.toNat

def magnitude (x : Binary f) : Nat := x.bits.toNat % f.signBit

/-- A NaN has all exponent bits set and a fraction. -/
def isNaN (x : Binary f) : Bool := f.infinityBits < x.magnitude

def isFinite (x : Binary f) : Bool := x.magnitude < f.infinityBits

def exponentField (x : Binary f) : Nat := x.magnitude / Nat.pow 2 f.fraction

/-- A finite number is `significand * 2 ^ exponent`, up to its sign. -/
def significand (x : Binary f) : Nat :=
  let low := x.magnitude % Nat.pow 2 f.fraction
  if x.exponentField = 0 then low else low + Nat.pow 2 f.fraction

/-- The exponent of the last place of a finite number. -/
def exponent (x : Binary f) : Int := f.minExponent + ((x.exponentField - 1 : Nat) : Int)

/-- Distinct bit patterns have distinct keys, and the keys ascend from the negative NaNs over
minus infinity, the two zeros and infinity to the NaNs. -/
def orderKey (x : Binary f) : Nat :=
  if x.isNegative then f.signBit - 1 - x.magnitude else f.signBit + x.magnitude

def compare (x y : Binary f) : Ordering := Ord.compare x.orderKey y.orderKey

instance : Ord (Binary f) := ⟨Binary.compare⟩

/-! ## Making numbers -/

/-- The number with the given sign and the given bits below the sign. -/
def ofMagnitude (negative : Bool) (magnitude : Nat) : Binary f :=
  ⟨BitVec.ofNat f.width (magnitude + if negative then f.signBit else 0)⟩

def infinity (negative : Bool) : Binary f := ofMagnitude negative f.infinityBits

/-- The quiet NaN without a payload, of either sign. -/
def nan (negative : Bool) : Binary f :=
  ofMagnitude negative (f.infinityBits + Nat.pow 2 (f.fraction - 1))

/-- The magnitude nearest to the quotient `num / den`; infinity where no finite one is near. -/
def roundRatio (f : Format) (num den : Nat) : Nat :=
  if num = 0 then 0
  else
    let q := max f.minExponent (binaryExponent num den - (f.fraction : Int))
    let (n, d) := scaleRatio num den q
    min ((q - f.minExponent).toNat * Nat.pow 2 f.fraction + roundHalfEven n d) f.infinityBits

/-- The number nearest to `num / den`, with the given sign. -/
def ofRatio (negative : Bool) (num den : Nat) : Binary f :=
  ofMagnitude negative (roundRatio f num den)

/-- The number nearest to `m * 2 ^ q`, with the given sign. -/
def ofScaled (negative : Bool) (m : Nat) (q : Int) : Binary f :=
  if 0 ≤ q then ofRatio negative (m * Nat.pow 2 q.toNat) 1
  else ofRatio negative m (Nat.pow 2 (-q).toNat)

/-- The number nearest to an integer; zero is the positive one. -/
def ofInt (i : Int) : Binary f := ofRatio (decide (i < 0)) i.natAbs 1

/-- The number nearest to `coefficient * 10 ^ exponent`, with the given sign.  Exponents so large or
so small that the value lies beyond every finite number, or below half of the smallest one, are
settled without computing the power. -/
def ofDecimal (negative : Bool) (coefficient : Nat) (exponent : Int) : Binary f :=
  let digits : Int := ((Nat.toDigits 10 coefficient).length : Int)
  if coefficient = 0 then ofMagnitude negative 0
  else if (f.bias : Int) + 2 ≤ exponent + digits then infinity negative
  else if exponent + digits ≤ f.minExponent - 1 then ofMagnitude negative 0
  else if 0 ≤ exponent then ofRatio negative (coefficient * Nat.pow 10 exponent.toNat) 1
  else ofRatio negative coefficient (Nat.pow 10 (-exponent).toNat)

/-! ## Arithmetic -/

/-- The same number in another format.  A NaN keeps its sign and the leading bits of its payload,
and becomes quiet. -/
def convert (g : Format) (x : Binary f) : Binary g :=
  if x.isNaN then
    let payload := x.magnitude % Nat.pow 2 (f.fraction - 1)
    ofMagnitude x.isNegative
      (g.infinityBits + Nat.pow 2 (g.fraction - 1) +
        payload * Nat.pow 2 g.fraction / Nat.pow 2 f.fraction)
  else if x.isFinite then ofScaled x.isNegative x.significand x.exponent
  else infinity x.isNegative

/-- The product of two finite numbers, rounded once. -/
def product (x y : Binary f) : Binary f :=
  ofScaled (x.isNegative != y.isNegative) (x.significand * y.significand) (x.exponent + y.exponent)

/-- The quotient of two finite numbers, the second not zero, rounded once. -/
def quotient (x y : Binary f) : Binary f :=
  let (n, d) := scaleRatio x.significand y.significand (y.exponent - x.exponent)
  ofRatio (x.isNegative != y.isNegative) n d

end Binary

end ObjectGraph
