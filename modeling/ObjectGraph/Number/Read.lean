import ObjectGraph.Number.Binary
import ObjectGraph.Text

/-!
# Numbers and truth values read from text

An integer is an optional sign and one or more decimal digits, read from left to right; a digit
that takes the number out of its range is reported before anything further to the right.  A binary
number is an optional sign and either digits with an optional point and exponent, or the name of an
infinity or of NaN in any case.

* `readInteger`: integers of a given width in two's complement.
* `readBinary`: the number of a format nearest to the decimal in the text.
-/

namespace ObjectGraph

open Text (isDigit digitValue? digitsValue)

/-- Why a text is not a number or a truth value. -/
inductive ReadError where
  | emptyInteger
  | invalidDigit
  | tooLarge
  | tooSmall
  | emptyNumber
  | invalidNumber
  | notBoolean
  deriving DecidableEq, Repr

def ReadError.message : ReadError → String
  | .emptyInteger => "cannot parse integer from empty string"
  | .invalidDigit => "invalid digit found in string"
  | .tooLarge => "number too large to fit in target type"
  | .tooSmall => "number too small to fit in target type"
  | .emptyNumber => "cannot parse float from empty string"
  | .invalidNumber => "invalid float literal"
  | .notBoolean => "provided string was not \x60true\x60 or \x60false\x60"

/-! ## Integers -/

/-- Reads the digits that follow the value `acc`.  The value may not exceed `limit`, and
`overflow` is the error where it would. -/
def readDigits (limit : Nat) (overflow : ReadError) : Nat → List Char → Except ReadError Nat
  | acc, [] => .ok acc
  | acc, c :: cs =>
    match digitValue? c with
    | none => .error .invalidDigit
    | some d =>
      if limit < acc * 10 + d then .error overflow
      else readDigits limit overflow (acc * 10 + d) cs

/-- Reads an integer of `width` bits in two's complement. -/
def readInteger (width : Nat) : List Char → Except ReadError Int
  | [] => .error .emptyInteger
  | ['+'] => .error .invalidDigit
  | ['-'] => .error .invalidDigit
  | '+' :: cs => (readDigits (Nat.pow 2 (width - 1) - 1) .tooLarge 0 cs).map Int.ofNat
  | '-' :: cs => (readDigits (Nat.pow 2 (width - 1)) .tooSmall 0 cs).map fun n => -(n : Int)
  | cs => (readDigits (Nat.pow 2 (width - 1) - 1) .tooLarge 0 cs).map Int.ofNat

/-! ## Binary numbers -/

/-- The exponent part: nothing, or the letter, an optional sign and one or more digits. -/
def readExponent : List Char → Option Int
  | [] => some 0
  | c :: cs =>
    if c = 'e' ∨ c = 'E' then
      let (negative, digits) := match cs with
        | '+' :: r => (false, r)
        | '-' :: r => (true, r)
        | r => (false, r)
      if digits.isEmpty || !digits.all isDigit then none
      else some (if negative then -(digitsValue 0 digits : Int) else digitsValue 0 digits)
    else none

/-- A decimal without sign: its coefficient and its exponent.  At least one digit stands before or
after the point. -/
def readDecimal (cs : List Char) : Option (Nat × Int) :=
  let whole := cs.takeWhile isDigit
  let rest := cs.dropWhile isDigit
  let (places, rest) := match rest with
    | '.' :: r => (r.takeWhile isDigit, r.dropWhile isDigit)
    | r => ([], r)
  if whole.isEmpty && places.isEmpty then none
  else (readExponent rest).map fun e =>
    (digitsValue (digitsValue 0 whole) places, e - (places.length : Int))

/-- The unsigned part of a binary number: the name of a special value, or a decimal. -/
def readUnsigned (f : Format) (negative : Bool) (cs : List Char) : Option (Binary f) :=
  let name := cs.map Char.toLower
  if name = ['i', 'n', 'f'] ∨ name = ['i', 'n', 'f', 'i', 'n', 'i', 't', 'y'] then
    some (.infinity negative)
  else if name = ['n', 'a', 'n'] then some (.nan negative)
  else (readDecimal cs).map fun (n, e) => .ofDecimal negative n e

def readBinary (f : Format) (cs : List Char) : Except ReadError (Binary f) :=
  let value? := match cs with
    | '+' :: r => readUnsigned f false r
    | '-' :: r => readUnsigned f true r
    | r => readUnsigned f false r
  if cs.isEmpty then .error .emptyNumber
  else match value? with
    | some x => .ok x
    | none => .error .invalidNumber

/-! ## Truth values -/

def readBoolean (s : String) : Except ReadError Bool :=
  if s = "true" then .ok true else if s = "false" then .ok false else .error .notBoolean

end ObjectGraph
