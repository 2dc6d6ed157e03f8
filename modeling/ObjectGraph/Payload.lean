import ObjectGraph.Coercion
import ObjectGraph.Container
import ObjectGraph.Json.Value

/-!
# Payloads

What the store gave for a field, before anything is known about its declared type.  Arrays of
primitives, a single text that may stand for its characters, or a JSON value.

* `Payload.toValues`: the ordered values that a payload stands for.
* `Payload.ofJson`: the payload in a JSON value.
-/

namespace ObjectGraph

/-- Errors of merging. -/
inductive MergeError where
  | unsupportedKind (name : String)
  | coercionFailure (error : Refusal)
  deriving DecidableEq, Repr

def MergeError.message : MergeError → String
  | .unsupportedKind name => "unsupported container kind: " ++ name
  | .coercionFailure error => "coercion failure: " ++ error.message

/-- What the store gave for a field. -/
inductive Payload where
  /-- Nothing was read. -/
  | absent
  | values (items : List Value)
  | booleans (items : List Bool)
  | integers (items : List Int32)
  | longs (items : List Int64)
  | floats (items : List Single)
  | doubles (items : List Double)
  | characters (items : List Char)
  /-- A single text. -/
  | text (s : String)
  /-- An array of texts. -/
  | strings (items : List String)

namespace Payload

def ofOption : Option (List Value) → Payload
  | none => .absent
  | some items => .values items

/-- The payload of a container: its values in container order. -/
def ofContainer (c : Container) : Payload := .values c.values

/-! ## The values of a payload -/

/-- The first character of each text; an empty text has none. -/
def firstCharacters : List String → Except MergeError (List Value)
  | [] => .ok []
  | s :: rest =>
    match s.toList with
    | [] => .error (.coercionFailure ⟨ElementType.character.name, "\"\"", .emptyText⟩)
    | c :: _ => (firstCharacters rest).map (.character c :: ·)

/-- The ordered values that a payload stands for.  For characters a text stands for all its
characters, and each text of an array for its first. -/
def toValues (element : ElementType) : Payload → Except MergeError (List Value)
  | .absent => .ok []
  | .values items => .ok items
  | .booleans items => .ok (items.map .boolean)
  | .integers items => .ok (items.map .integer)
  | .longs items => .ok (items.map .long)
  | .floats items => .ok (items.map .float)
  | .doubles items => .ok (items.map .double)
  | .characters items => .ok (items.map .character)
  | .text s => .ok (if element.isCharacter then s.toList.map .character else [.string s])
  | .strings items =>
    if element.isCharacter then firstCharacters items else .ok (items.map .string)

end Payload

/-! ## From JSON -/

namespace Json.Value

def asString? : Json.Value → Option String
  | .string s => some s
  | _ => none

def asBool? : Json.Value → Option Bool
  | .bool b => some b
  | _ => none

def asInt? : Json.Value → Option Int64
  | .number n => n.toInt?
  | _ => none

def asDouble? : Json.Value → Option Double
  | .number n => some n.toDouble
  | _ => none

end Json.Value

namespace Payload

/-- The value of a JSON scalar.  Arrays and objects are none. -/
def scalar : Json.Value → Except MergeError Value
  | .null => .ok .null
  | .bool b => .ok (.boolean b)
  | .number n => .ok (match n.toInt? with
    | some l => .long l
    | none => .double n.toDouble)
  | .string s => .ok (.string s)
  | nested => .error (.coercionFailure ⟨"property value", nested.compact, .nested⟩)

/-- The payload in a JSON array: the narrowest primitive form that holds all items, or else the
items one by one. -/
def ofJsonArray (items : List Json.Value) : Except MergeError Payload :=
  if items.isEmpty then .ok (.values [])
  else match items.mapM Json.Value.asString? with
  | some texts => .ok (.strings texts)
  | none =>
    match items.mapM Json.Value.asBool? with
    | some truths => .ok (.booleans truths)
    | none =>
      match items.mapM Json.Value.asInt? with
      | some whole => .ok (.longs whole)
      | none =>
        match items.mapM Json.Value.asDouble? with
        | some reals => .ok (.doubles reals)
        | none => (items.mapM scalar).map .values

/-- The payload in a JSON value that the store holds for a property. -/
def ofJson : Json.Value → Except MergeError Payload
  | .null => .ok .absent
  | .string s => .ok (.text s)
  | .array items => ofJsonArray items
  | other => (scalar other).map fun v => .values [v]

end Payload

end ObjectGraph
