import ObjectGraph.Schema

/-!
# Wrapper types

An object whose class has no identity field gets its identity through a wrapper.  All wrappers of a
type share one description, which can be made unless the class is sealed or has an identity field.
-/

namespace ObjectGraph

/-- Why there can be no wrapper for a type. -/
inductive WrapperObstacle where
  | sealed
  | ownIdentity
  deriving DecidableEq, Repr

def WrapperObstacle.message : WrapperObstacle → String
  | .sealed => "type is sealed"
  | .ownIdentity => "type declares its own identity field"

/-- Errors of identity tracking. -/
inductive IdentityError where
  | wrapperConstruction (typeName : String) (obstacle : WrapperObstacle)
  | schema (error : SchemaError)
  | coercion (error : Refusal)
  | domain (error : DomainError)
  deriving DecidableEq, Repr

def IdentityError.message : IdentityError → String
  | .wrapperConstruction t obstacle =>
    "cannot build identity wrapper for " ++ t ++ ": " ++ obstacle.message
  | .schema error => "metadata error: " ++ error.message
  | .coercion error => "identity coercion failed: " ++ error.message
  | .domain error => error.message

/-- What stands against wrappers for the objects of a class. -/
def EntityClass.wrapperObstacle? (c : EntityClass) : Option WrapperObstacle :=
  if !c.wrappable then some .sealed else if c.holdsIdentity then some .ownIdentity else none

/-- The description of the wrappers for a class, with a given serial number. -/
def WrapperType.build (c : EntityClass) (serial : Nat) : Except IdentityError WrapperType :=
  match c.wrapperObstacle? with
  | some obstacle => .error (.wrapperConstruction c.typeName obstacle)
  | none => .ok ⟨serial, c.typeName, c.typeName ++ "$IdentityWrapper"⟩

end ObjectGraph
