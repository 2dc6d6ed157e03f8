import ObjectGraph.Coercion
import ObjectGraph.Heap

/-!
# Fields

How one named field of the objects of one concrete type is read and written, and how that fails.
Stand-ins are looked through, so that a wrapped object is read and written like a plain one.

* `SchemaError`: what can be wrong with a class, a field or a value for it.
* `PropertyField.stored`, `CollectionField.stored`: a field that is stored under its own
  name.
-/

namespace ObjectGraph

/-! ## Errors -/

/-- Errors of looking up classes and of reading and writing fields. -/
inductive SchemaError where
  /-- Nothing is registered for the type. -/
  | unknownType (typeName : String)
  | duplicateIdentityField (typeName : String) (fields : List String)
  | noIdentityField (typeName : String)
  | unknownField (typeName field : String)
  | readOnlyField (typeName field : String)
  /-- A field of one concrete type was looked for on another, or a value is of another kind. -/
  | typeMismatch (expected actual : String)
  | coercion (error : Refusal)
  /-- What the writer of a field states. -/
  | internal (text : String)
  deriving DecidableEq, Repr

def SchemaError.message : SchemaError → String
  | .unknownType t => "unknown entity type: " ++ t
  | .duplicateIdentityField t fields =>
    "type " ++ t ++ " declares more than one identity field: " ++
      Text.listing (fields.map Text.quoted)
  | .noIdentityField t => "type " ++ t ++ " declares no identity field"
  | .unknownField t f => "type " ++ t ++ " has no field named " ++ f
  | .readOnlyField t f => "field " ++ t ++ "." ++ f ++ " is read-only"
  | .typeMismatch expected actual => "accessor for " ++ expected ++ " applied to " ++ actual
  | .coercion error => "coercion failed: " ++ error.message
  | .internal text => "internal error: " ++ text

/-! ## Reading and writing -/

/-- Reads values of type `ρ` from a field and writes values of type `ω` to it. -/
structure FieldAccess (ρ ω : Type) where
  name : String
  /-- The declared type of the value, or of the values in the container. -/
  element : ElementType
  /-- The concrete type whose objects have the field. -/
  host : String
  get : Fields → ρ
  /-- The writer, unless the field can only be read. -/
  set? : Option (Fields → ω → Except SchemaError Fields)

namespace FieldAccess

variable {ρ ω : Type}

def isWritable (a : FieldAccess ρ ω) : Bool := a.set?.isSome

/-- The error for an object of another concrete type. -/
def mismatch (a : FieldAccess ρ ω) (h : Handle) : SchemaError := .typeMismatch a.host h.typeName

def read (a : FieldAccess ρ ω) (heap : Heap) (h : Handle) : Except SchemaError ρ :=
  if h.target.host = a.host then .ok (a.get (heap.fieldsOf h.target)) else .error (a.mismatch h)

/-- Writes the field of an object.  That a field can only be read is found first. -/
def write (a : FieldAccess ρ ω) (heap : Heap) (h : Handle) (value : ω) :
    Except SchemaError Heap :=
  match a.set? with
  | none => .error (.readOnlyField h.typeName a.name)
  | some set =>
    if h.target.host = a.host then
      match set (heap.fieldsOf h.target) value with
      | .ok fields => .ok (heap.setFields h.target fields)
      | .error e => .error e
    else .error (a.mismatch h)

/-- The same field, which refuses whatever is written. -/
def rejecting (a : FieldAccess ρ ω) : FieldAccess ρ ω :=
  { a with set? := some fun _ _ => .error (.internal ("rejected " ++ a.name)) }

def readOnly (a : FieldAccess ρ ω) : FieldAccess ρ ω := { a with set? := none }

end FieldAccess

abbrev PropertyField := FieldAccess Value Value

namespace PropertyField

/-- The property stored under the name; null if there is none. -/
def stored (host name : String) (element : ElementType) : PropertyField where
  name := name
  element := element
  host := host
  get fields := (fields.properties.find? name).getD .null
  set? := some fun fields v => .ok { fields with properties := fields.properties.insert name v }

def describe (a : PropertyField) : String :=
  Text.record "PropertyAccessor"
    [("name", Text.quoted a.name), ("element_type", a.element.describe),
      ("writable", Text.truth a.isWritable)]

end PropertyField

/-- Access to a field that holds a container, with the shape that the field declares.  A field that
holds none is uninitialized. -/
structure CollectionField extends FieldAccess (Option Container) Container where
  shape : Shape

namespace CollectionField

def stored (host name : String) (shape : Shape) (element : ElementType) :
    CollectionField where
  name := name
  element := element
  host := host
  shape := shape
  get fields := fields.collections.find? name
  set? := some fun fields c => .ok { fields with collections := fields.collections.insert name c }

def describe (a : CollectionField) : String :=
  Text.record "CollectionAccessor"
    [("name", Text.quoted a.name), ("shape", a.shape.describe),
      ("element_type", a.element.describe), ("writable", Text.truth a.isWritable)]

end CollectionField

end ObjectGraph
