import ObjectGraph.Number.Binary
import ObjectGraph.Json.Tree

/-!
# The numbers of JSON

A number without fraction and exponent is an integer if it fits 64 bits, with or without sign; all
other numbers are 64-bit binary numbers.  Minus zero is one of them, since no integer is it.

* `Number.ofText?`: the number that a numeral stands for.
* `Number.toInt?`, `Number.toDouble`: its two readings.
-/

namespace ObjectGraph.Json

open Text (digitsValue)

/-- A JSON number. -/
inductive Number where
  | unsigned (n : UInt64)
  | negative (i : Int64)
  | real (x : Double)
  deriving DecidableEq

/-! ## Binary numbers from decimal digits

The digits are gathered in 64 bits as long as they fit.  The number so gathered is rounded to a
binary number, and that one is multiplied or divided by a rounded power of ten, rounding again. -/

def maxUnsigned : Nat := Nat.pow 2 64 - 1

/-- Gathers digits before the point.  Digits from the first one that does not fit are counted and
not gathered: the second component is their number. -/
def gatherWhole : Nat → List Char → Nat × Nat
  | acc, [] => (acc, 0)
  | acc, c :: cs =>
    let next := acc * 10 + (c.toNat - '0'.toNat)
    if maxUnsigned < next then (acc, cs.length + 1) else gatherWhole next cs

/-- Gathers digits after the point, up to the first one that does not fit; the second component
counts those gathered. -/
def gatherPlaces : Nat → List Char → Nat × Nat
  | acc, [] => (acc, 0)
  | acc, c :: cs =>
    let next := acc * 10 + (c.toNat - '0'.toNat)
    if maxUnsigned < next then (acc, 0)
    else
      let (value, count) := gatherPlaces next cs
      (value, count + 1)

def powerOfTen (n : Nat) : Double := .ofRatio false (Nat.pow 10 n) 1

/-- A finite number times `10 ^ e`, in at most two steps of at most `10 ^ 308`.  Nothing if the
result is not finite. -/
def timesPowerOfTen? (x : Double) (e : Int) : Option Double :=
  if x.significand = 0 then some x
  else if 308 < e then none
  else if 0 ≤ e then
    let y := x.product (powerOfTen e.toNat)
    if y.isFinite then some y else none
  else if -308 ≤ e then some (x.quotient (powerOfTen (-e).toNat))
  else if -616 ≤ e then
    some ((x.quotient (powerOfTen 308)).quotient (powerOfTen (-e - 308).toNat))
  else some (.ofMagnitude false 0)

/-- The binary number with the sign changed if `negative` holds. -/
def signed (negative : Bool) (x : Double) : Double := .ofMagnitude negative x.magnitude

def maxPower : Nat := Nat.pow 2 31 - 1

/-- The binary number for a numeral with a point, an exponent or too many digits. -/
def realOfText? (t : NumberText) : Option Double :=
  let (acc, dropped) := gatherWhole 0 t.whole
  let (acc, places) := gatherPlaces acc (t.places.getD [])
  let e : Int := (dropped : Int) - (places : Int)
  let scaled (e : Int) := (timesPowerOfTen? (.ofRatio false acc 1) e).map (signed t.negative)
  match t.power with
  | none => scaled e
  | some (down, digits) =>
    let p := digitsValue 0 digits
    if maxPower < p then
      if acc = 0 || down then some (.ofMagnitude t.negative 0) else none
    else scaled (if down then e - (p : Int) else e + (p : Int))

namespace Number

/-- The number for a numeral; nothing if it lies beyond the finite numbers. -/
def ofText? (t : NumberText) : Option Number :=
  let n := digitsValue 0 t.whole
  if t.places.isNone && t.power.isNone && n ≤ maxUnsigned then
    if !t.negative then some (.unsigned (UInt64.ofNat n))
    else if 0 < n ∧ n ≤ Nat.pow 2 63 then some (.negative (Int64.ofInt (-(n : Int))))
    else some (.real (.ofRatio true n 1))
  else (realOfText? t).map .real

/-- The integer, if it is one and fits 64 bits with a sign. -/
def toInt? : Number → Option Int64
  | .unsigned n => if n.toNat < Nat.pow 2 63 then some (Int64.ofInt n.toNat) else none
  | .negative i => some i
  | .real _ => none

def toDouble : Number → Double
  | .unsigned n => .ofInt n.toNat
  | .negative i => .ofInt i.toInt
  | .real x => x

end Number

end ObjectGraph.Json
