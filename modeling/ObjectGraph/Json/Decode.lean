import ObjectGraph.Element
import ObjectGraph.Json.Value
import ObjectGraph.Shape

/-!
# Types of the library as JSON

How shapes, element types and identities are written as JSON and read back.  A choice without
content is a string, or an object whose single member has that name and null; a choice with content
is an object with a single member; a record is an object, whose further members are ignored, or an
array of its fields in order.
-/

namespace ObjectGraph

namespace Json.Tree

def unitName? : Tree → Option String
  | .string name => name
  | .object [(name, .null)] => name
  | _ => none

def text? : Tree → Option String
  | .string s => s
  | _ => none

def texts? : Tree → Option (List String)
  | .array items => items.mapM text?
  | _ => none

/-- The integer of a numeral without point and exponent. -/
def number? : Tree → Option Number
  | .number text => Number.ofText? text
  | _ => none

def int64? (t : Tree) : Option Int64 := t.number? >>= Number.toInt?

def uint64? (t : Tree) : Option UInt64 :=
  match t.number? with
  | some (.unsigned n) => some n
  | _ => none

/-- The fields of a record, each if it is there, in the order of their names.  A field must not be
there twice, every name has to be a text, and an array must not have more items than there are
fields.  What a further member holds does not matter. -/
def fields? (names : List String) : Tree → Option (List (Option Tree))
  | .object members =>
    let named (name : String) := members.filter fun member => member.1 == some name
    if members.any fun member => member.1.isNone then none
    else if names.any fun name => 1 < (named name).length then none
    else some (names.map fun name => ((named name).head?).map Prod.snd)
  | .array items =>
    if names.length < items.length then none
    else some ((List.range names.length).map fun i => items[i]?)
  | _ => none

/-- The content of a field that may be missing; what is there has to be well formed. -/
def field? {α : Type} (read? : Tree → Option α) (fallback : α) : Option Tree → Option α
  | none => some fallback
  | some tree => read? tree

end Json.Tree

open Json (Tree)

/-! ## Shapes -/

namespace Shape

def ofName? (name : String) : Option Shape := all.find? fun shape => shape.name == name

def ofTree? (t : Tree) : Option Shape := t.unitName? >>= ofName?

def toJson (shape : Shape) : Json.Value := .string shape.name

end Shape

/-! ## Element types -/

def Enumeration.ofTree? (t : Tree) : Option Enumeration :=
  match t.fields? ["name", "variants"] with
  | some [some name, some variants] => do
    let name ← name.text?
    let variants ← variants.texts?
    return ⟨name, variants⟩
  | _ => none

def Enumeration.toJson (e : Enumeration) : Json.Value :=
  .object [("name", .string e.name), ("variants", .array (e.variants.map .string))]

namespace ElementType

/-- The element types that are known by their name alone. -/
def simple : List ElementType :=
  [.boolean, .integer, .long, .float, .double, .character, .string, .any]

/-- The element type that is known by a name alone. -/
def ofSimpleName? (name : String) : Option ElementType := simple.find? fun t => t.name == name

def ofTree? : Tree → Option ElementType
  | .string name => name >>= ofSimpleName?
  | .object [(some name, content)] =>
    if name = "enum" then (Enumeration.ofTree? content).map .enum
    else if name = "entity" then content.text?.map .entity
    else match content with
      | .null => ofSimpleName? name
      | _ => none
  | _ => none

def toJson : ElementType → Json.Value
  | .enum e => .object [("enum", e.toJson)]
  | .entity typeName => .object [("entity", .string typeName)]
  | t => .string t.name

end ElementType

/-! ## Identities -/

namespace EntityId

/-- The identity that a JSON tree stands for: an integer that is not negative. -/
def ofTree? (t : Tree) : Option EntityId := t.int64? >>= fun raw => (ofInt64 raw).toOption

def toJson (id : EntityId) : Json.Value := .number (.unsigned id.raw.toUInt64)

end EntityId

end ObjectGraph
