import ObjectGraph.Text

/-!
# Element types

The declared type of a property, or of the values in a container.  It decides how payloads from
the store are converted.
-/

namespace ObjectGraph

/-- A declared enumeration: its name and the variants it permits. -/
structure Enumeration where
  name : String
  variants : List String
  deriving DecidableEq, Repr

def Enumeration.hasVariant (e : Enumeration) (variant : String) : Bool := e.variants.contains variant

def Enumeration.describe (e : Enumeration) : String :=
  Text.record "EnumType"
    [("name", Text.quoted e.name), ("variants", Text.listing (e.variants.map Text.quoted))]

/-- The declared type of a value. -/
inductive ElementType where
  | boolean
  /-- 32-bit integers with a sign. -/
  | integer
  /-- 64-bit integers with a sign. -/
  | long
  | float
  | double
  | character
  | string
  | enum (type : Enumeration)
  /-- A related object of the named type. -/
  | entity (typeName : String)
  /-- Nothing declared: values pass unchanged. -/
  | any
  deriving DecidableEq, Repr

namespace ElementType

def isCharacter (t : ElementType) : Bool := t = .character

/-- The name in messages: declared types by their declared name. -/
def name : ElementType → String
  | .boolean => "boolean"
  | .integer => "integer"
  | .long => "long"
  | .float => "float"
  | .double => "double"
  | .character => "character"
  | .string => "string"
  | .enum e => e.name
  | .entity typeName => typeName
  | .any => "any"

def describe : ElementType → String
  | .boolean => "Boolean"
  | .integer => "Integer"
  | .long => "Long"
  | .float => "Float"
  | .double => "Double"
  | .character => "Character"
  | .string => "String"
  | .enum e => Text.tagged "Enum" e.describe
  | .entity typeName => Text.tagged "Entity" (Text.quoted typeName)
  | .any => "Any"

end ElementType

end ObjectGraph
