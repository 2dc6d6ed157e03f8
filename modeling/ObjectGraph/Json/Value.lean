import ObjectGraph.NameMap
import ObjectGraph.Number.Shortest
import ObjectGraph.Json.Number

/-!
# JSON values and their compact text

`Value.read?` gives the value that a JSON text stands for: of members of one name the last counts,
and the members are in ascending order of their names.  `Value.compact` writes a value without
spaces, its members in the order in which they are held.
-/

namespace ObjectGraph.Json

/-- A JSON value. -/
inductive Value where
  | null
  | bool (b : Bool)
  | number (n : Number)
  | string (text : String)
  | array (items : List Value)
  | object (members : List (String × Value))

namespace Value

/-! ## Reading -/

mutual

/-- The value that a tree stands for.  `depth` bounds how deeply arrays and objects nest. -/
def ofTree? (depth : Nat) : Tree → Option Value
  | .null => some .null
  | .bool b => some (.bool b)
  | .number text => (Number.ofText? text).map .number
  | .string text => text.map .string
  | .array items =>
    match depth with
    | 0 => none
    | depth + 1 => (ofItems? depth items).map .array
  | .object members =>
    match depth with
    | 0 => none
    | depth + 1 => (ofMembers? depth [] members).map .object

def ofItems? (depth : Nat) : List Tree → Option (List Value)
  | [] => some []
  | item :: items => do
    let value ← ofTree? depth item
    let values ← ofItems? depth items
    return value :: values

/-- The members of an object, gathered into `held`. -/
def ofMembers? (depth : Nat) (held : List (String × Value)) :
    List (Option String × Tree) → Option (List (String × Value))
  | [] => some held
  | (name?, tree) :: rest => do
    let name ← name?
    let value ← ofTree? depth tree
    ofMembers? depth (insertEntry name value held) rest

end

def maxDepth : Nat := 127

def read? (text : String) : Option Value := do
  let tree ← Tree.read? text
  ofTree? maxDepth tree

/-! ## Writing -/

/-- The last two hexadecimal digits of the code point of a control character. -/
def controlDigits (c : Char) : List Char :=
  let digits := Nat.toDigits 16 c.toNat
  List.replicate (2 - digits.length) '0' ++ digits

def escapeChar (c : Char) : List Char :=
  if c = '"' then ['\\', '"']
  else if c = '\\' then ['\\', '\\']
  else if c = '\x08' then ['\\', 'b']
  else if c = '\x0c' then ['\\', 'f']
  else if c = '\n' then ['\\', 'n']
  else if c = '\r' then ['\\', 'r']
  else if c = '\t' then ['\\', 't']
  else if c < ' ' then ['\\', 'u', '0', '0'] ++ controlDigits c
  else [c]

def stringChars (s : String) : List Char := '"' :: s.toList.flatMap escapeChar ++ ['"']

def numberChars : Number → List Char
  | .unsigned n => Nat.toDigits 10 n.toNat
  | .negative i => (toString i.toInt).toList
  | .real x => x.scientificText.toList

mutual

def chars : Value → List Char
  | .null => ['n', 'u', 'l', 'l']
  | .bool true => ['t', 'r', 'u', 'e']
  | .bool false => ['f', 'a', 'l', 's', 'e']
  | .number n => numberChars n
  | .string s => stringChars s
  | .array items => '[' :: itemChars items ++ [']']
  | .object members => '\x7b' :: memberChars members ++ ['\x7d']

def itemChars : List Value → List Char
  | [] => []
  | [item] => item.chars
  | item :: items => item.chars ++ ',' :: itemChars items

def memberChars : List (String × Value) → List Char
  | [] => []
  | [(name, value)] => stringChars name ++ ':' :: value.chars
  | (name, value) :: rest => stringChars name ++ ':' :: value.chars ++ ',' :: memberChars rest

end

def compact (v : Value) : String := String.ofList v.chars

end Value

end ObjectGraph.Json
