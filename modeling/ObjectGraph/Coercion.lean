import ObjectGraph.Element
import ObjectGraph.Number.Read
import ObjectGraph.Text
import ObjectGraph.Value

/-!
# Coercion to a declared type

A coercion converts a value to a declared element type, or says why it cannot.  Everything that
merges or identifies goes through one, so that other rules can be put in the place of the standard
ones.

* `Coercion.standard`: integers widen freely and narrow in range only, numbers and truth values are
  read from text, characters and strings become one another, and enumerations take the names of
  their variants.  Null passes for every type.
-/

namespace ObjectGraph

/-- Why a value was not converted. -/
inductive RefusalReason where
  /-- The number lies outside the narrower range. -/
  | overflow
  /-- The string is not a single character. -/
  | notOneCharacter
  /-- The string names no declared variant. -/
  | undeclaredVariant
  /-- Values of this kind are never converted to the type. -/
  | noConversion (kind : String)
  /-- The text does not stand for a value of the type. -/
  | unreadable (error : ReadError)
  /-- The string has no first character to take. -/
  | emptyText
  /-- Arrays and objects inside an array are no values. -/
  | nested
  /-- What a rule outside the standard ones states. -/
  | stated (text : String)
  deriving DecidableEq, Repr

def RefusalReason.message : RefusalReason → String
  | .overflow => "cannot be narrowed without overflow"
  | .notOneCharacter => "expected exactly one character"
  | .undeclaredVariant => "not a declared variant"
  | .noConversion kind => "no conversion from " ++ kind
  | .unreadable error => error.message
  | .emptyText => "empty string has no first character"
  | .nested => "nested arrays and objects are not property values"
  | .stated text => text

/-- A value that was not converted: the name of the declared type, the value as messages show it,
and the reason. -/
structure Refusal where
  target : String
  value : String
  reason : RefusalReason
  deriving DecidableEq, Repr

def Refusal.message (e : Refusal) : String :=
  "cannot coerce " ++ e.value ++ " to " ++ e.target ++ ": " ++ e.reason.message

abbrev Coercion := ElementType → Value → Except Refusal Value

namespace Coercion

def refuse (target : ElementType) (v : Value) (reason : RefusalReason) : Refusal :=
  ⟨target.name, v.display, reason⟩

/-- Reads a value from a text without the blanks around it. -/
def readTrimmed {α : Type} (target : ElementType) (read : List Char → Except ReadError α)
    (make : α → Value) (s : String) : Except Refusal Value :=
  match read (Text.trimChars s.toList) with
  | .ok a => .ok (make a)
  | .error e => .error (refuse target (.string s) (.unreadable e))

/-- Whether a 64-bit number lies beyond the finite 32-bit numbers, the infinities apart. -/
def overflowsSingle (x : Double) : Bool :=
  let largest : Single := .ofMagnitude false (Format.single.infinityBits - 1)
  x.isFinite && (largest.convert Format.double).magnitude < x.magnitude

def standard : Coercion
  | _, .null => .ok .null
  | .any, v => .ok v
  | .boolean, .boolean b => .ok (.boolean b)
  | .boolean, .string s => readTrimmed .boolean (readBoolean ∘ String.ofList) .boolean s
  | .integer, .integer i => .ok (.integer i)
  | .integer, .long l =>
    if Int32.minValue.toInt ≤ l.toInt ∧ l.toInt ≤ Int32.maxValue.toInt then
      .ok (.integer (Int32.ofInt l.toInt))
    else .error (refuse .integer (.long l) .overflow)
  | .integer, .string s => readTrimmed .integer (readInteger 32) (.integer ∘ Int32.ofInt) s
  | .long, .long l => .ok (.long l)
  | .long, .integer i => .ok (.long i.toInt64)
  | .long, .string s => readTrimmed .long (readInteger 64) (.long ∘ Int64.ofInt) s
  | .float, .float x => .ok (.float x)
  | .float, .double x =>
    if overflowsSingle x then .error (refuse .float (.double x) .overflow)
    else .ok (.float (x.convert .single))
  | .float, .integer i => .ok (.float (.ofInt i.toInt))
  | .float, .long l => .ok (.float (.ofInt l.toInt))
  | .float, .string s => readTrimmed .float (readBinary .single) .float s
  | .double, .double x => .ok (.double x)
  | .double, .float x => .ok (.double (x.convert .double))
  | .double, .integer i => .ok (.double (.ofInt i.toInt))
  | .double, .long l => .ok (.double (.ofInt l.toInt))
  | .double, .string s => readTrimmed .double (readBinary .double) .double s
  | .character, .character c => .ok (.character c)
  | .character, .string s =>
    match s.toList with
    | [c] => .ok (.character c)
    | _ => .error (refuse .character (.string s) .notOneCharacter)
  | .string, .string s => .ok (.string s)
  | .string, .character c => .ok (.string (String.ofList [c]))
  | .string, .enum _ variant => .ok (.string variant)
  | .enum e, .enum typeName variant =>
    if typeName = e.name ∧ e.hasVariant variant then .ok (.enum typeName variant)
    else .error (refuse (.enum e) (.enum typeName variant) (.noConversion "enum"))
  | .enum e, .string s =>
    if e.hasVariant s then .ok (.enum e.name s)
    else .error (refuse (.enum e) (.string s) .undeclaredVariant)
  | .entity _, .entity h => .ok (.entity h)
  | target, v => .error (refuse target v (.noConversion v.kind))

/-! ## Other coercions -/

def refusing : Coercion := fun target v => .error (refuse target v (.stated "refused"))

def unchanged : Coercion := fun _ v => .ok v

def nulling : Coercion := fun _ _ => .ok .null

/-- Strings in ASCII capitals, whatever the type; the standard rules for other values. -/
def capitals : Coercion
  | _, .string s => .ok (.string (s.map Char.toUpper))
  | target, v => standard target v

end Coercion

end ObjectGraph
