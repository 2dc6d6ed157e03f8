/-!
# Store identities and placeholders

The store numbers its objects with non-negative 64-bit integers.  An object that has no number yet
is known by a placeholder, a negative integer mixed from the object's address, so that the two can
never be confused.

* `EntityId.ofInt64`: the identity with a given number, if it can be one.
* `placeholder`: the placeholder of an address.
-/

namespace ObjectGraph

/-- Errors of the basic types. -/
inductive DomainError where
  | invalidIdentity (raw : Int64)
  | unsupportedKind (name : String)
  deriving DecidableEq, Repr

def DomainError.message : DomainError → String
  | .invalidIdentity raw =>
    "invalid store identity " ++ toString raw.toInt ++ ": store identities are non-negative"
  | .unsupportedKind name => "unsupported container kind: " ++ name

/-- An identity given by the store: never negative. -/
structure EntityId where
  raw : Int64
  nonneg : 0 ≤ raw
  deriving DecidableEq, Repr

namespace EntityId

/-- The identity with the given number; negative numbers are refused. -/
def ofInt64 (raw : Int64) : Except DomainError EntityId :=
  if h : 0 ≤ raw then .ok ⟨raw, h⟩ else .error (.invalidIdentity raw)

def text (id : EntityId) : String := toString id.raw.toInt

def describe (id : EntityId) : String := "EntityId(" ++ id.text ++ ")"

end EntityId

/-! ## Placeholders -/

/-- Spreads a word over all words: shifts, exclusive ors and multiplications by odd numbers, each
of which can be undone. -/
def mixWord (z : UInt64) : UInt64 :=
  let z := (z ^^^ (z >>> 30)) * 0xbf58476d1ce4e5b9
  let z := (z ^^^ (z >>> 27)) * 0x94d049bb133111eb
  z ^^^ (z >>> 31)

/-- The placeholder of an object at the given address: the mixed address without its last bit,
counted down from minus one. -/
def placeholder (address : UInt64) : Int64 := -(mixWord address >>> 1).toInt64 - 1

end ObjectGraph
