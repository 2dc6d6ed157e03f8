import ObjectGraph.Entity
import ObjectGraph.Number.Shortest
import ObjectGraph.Text

/-!
# Values

The values that properties and containers hold.  They are totally ordered, first by kind and then
by content, and they can be hashed.

* `Value.compare`, `Value.equal`: the order, and the equality that it induces.
* `Value.hashContent`: what a value contributes to a hash.
* `Value.sameMember`: what a hashed container takes for the same member.
-/

namespace ObjectGraph

/-- A dynamically typed value. -/
inductive Value where
  | null
  | boolean (b : Bool)
  | integer (i : Int32)
  | long (l : Int64)
  | float (x : Single)
  | double (x : Double)
  | character (c : Char)
  | string (s : String)
  | enum (typeName variant : String)
  | entity (handle : Handle)

/-- What a value contributes to a hash, its kind included. -/
inductive HashContent where
  | null
  | boolean (b : Bool)
  | integer (i : Int32)
  | long (l : Int64)
  | float (bits : BitVec 32)
  | double (bits : BitVec 64)
  | character (c : Char)
  | string (s : String)
  | enum (typeName variant : String)
  /-- The text of the key of an object that declares a hash. -/
  | key (text : String)
  /-- The address of an object that declares none. -/
  | address (address : UInt64)
  deriving DecidableEq

namespace Value

/-- The name of the kind of value, used in messages. -/
def kind : Value → String
  | .null => "null"
  | .boolean _ => "boolean"
  | .integer _ => "integer"
  | .long _ => "long"
  | .float _ => "float"
  | .double _ => "double"
  | .character _ => "character"
  | .string _ => "string"
  | .enum .. => "enum"
  | .entity _ => "entity"

def isNull : Value → Bool
  | .null => true
  | _ => false

def asString? : Value → Option String
  | .string s => some s
  | _ => none

def asInt64? : Value → Option Int64
  | .integer i => some i.toInt64
  | .long l => some l
  | _ => none

/-! ## Order, equality and hash -/

def rank : Value → Nat
  | .null => 0
  | .boolean _ => 1
  | .integer _ => 2
  | .long _ => 3
  | .float _ => 4
  | .double _ => 5
  | .character _ => 6
  | .string _ => 7
  | .enum .. => 8
  | .entity _ => 9

def compare : Value → Value → Ordering
  | .null, .null => .eq
  | .boolean a, .boolean b => Ord.compare a b
  | .integer a, .integer b => Ord.compare a b
  | .long a, .long b => Ord.compare a b
  | .float a, .float b => Binary.compare a b
  | .double a, .double b => Binary.compare a b
  | .character a, .character b => Ord.compare a b
  | .string a, .string b => Ord.compare a b
  | .enum s v, .enum t w => (Ord.compare s t).then (Ord.compare v w)
  | .entity a, .entity b => Handle.compare a b
  | a, b => Ord.compare a.rank b.rank

/-- Values are equal if neither comes before the other. -/
def equal (a b : Value) : Bool := a.compare b == .eq

/-- What the value contributes to a hash.  Floating-point numbers contribute their bits, and
objects the text of the key of their declared hash or else their address. -/
def hashContent : Value → HashContent
  | .null => .null
  | .boolean b => .boolean b
  | .integer i => .integer i
  | .long l => .long l
  | .float x => .float x.bits
  | .double x => .double x.bits
  | .character c => .character c
  | .string s => .string s
  | .enum t v => .enum t v
  | .entity h =>
    match h.target.semantics.equalityKey? with
    | some key => .key key.text
    | none => .address h.address

/-- Whether a hashed container takes two values for the same member: their hashes agree and they
are equal. -/
def sameMember (a b : Value) : Bool := a.hashContent == b.hashContent && a.equal b

/-! ## Text -/

def display : Value → String
  | .null => "null"
  | .boolean b => if b then "true" else "false"
  | .integer i => toString i.toInt
  | .long l => toString l.toInt ++ "L"
  | .float x => x.plainText ++ "f"
  | .double x => x.plainText
  | .character c => String.ofList ['\'', c, '\'']
  | .string s => Text.quoted s
  | .enum t v => t ++ "::" ++ v
  | .entity h => h.target.text

end Value

end ObjectGraph
