import ObjectGraph.Identity.EntityId

/-!
# Domain objects and handles to them

A domain object is described by what never changes about it: where it is, its concrete type, the
type name it reports, its text, and what it declares for comparison.  A handle reaches an object
directly or through stand-ins, each an allocation of its own; everything that compares handles
looks through the stand-ins to the object.

* `Handle.target`: the object at the end of a chain of stand-ins.
* `Handle.equal`, `Handle.compare`: equality and order of handles; they fall back to the address of
  the object where its type declares none.
-/

namespace ObjectGraph

/-- A key by which objects are compared. -/
@[ext]
structure Key where
  /-- Which key it is.  Objects with different keys are not compared by them, and concrete types that
  compare with each other have one key. -/
  name : String
  text : String
  deriving DecidableEq, Repr

/-- What a type declares for the comparison of its objects. -/
inductive Semantics where
  /-- Nothing: an object equals itself alone. -/
  | identity
  /-- Equality, with a hash that agrees with it, by a key. -/
  | keyed (key : Key)
  /-- Equality, hash and order by a key. -/
  | ordered (key : Key)
  /-- An order by a key, but neither equality nor hash. -/
  | orderOnly (key : Key)
  deriving DecidableEq, Repr

/-- The key by which objects are equal, if equality is declared. -/
def Semantics.equalityKey? : Semantics → Option Key
  | .keyed key | .ordered key => some key
  | _ => none

/-- The key by which objects are ordered, if an order is declared. -/
def Semantics.orderKey? : Semantics → Option Key
  | .ordered key | .orderOnly key => some key
  | _ => none

/-- The part of a domain object that never changes. -/
structure Entity where
  /-- Which allocation the object is. -/
  id : Nat
  /-- Where the allocation is in memory.  Objects that live at the same time differ in it. -/
  address : UInt64
  /-- The concrete type. -/
  host : String
  /-- The type name that the object reports, under which it is mapped. -/
  typeName : String
  /-- How the object describes itself. -/
  text : String
  semantics : Semantics
  deriving DecidableEq, Repr

namespace Entity

/-- The declared equality: an answer only for objects of one type name that both declare it by one
key. -/
def equals? (a b : Entity) : Option Bool :=
  match a.semantics.equalityKey?, b.semantics.equalityKey? with
  | some k, some l =>
    if a.typeName == b.typeName && k.name == l.name then some (k.text == l.text) else none
  | _, _ => none

/-- The declared order: an answer only for objects of one type name that both declare it by one
key. -/
def compare? (a b : Entity) : Option Ordering :=
  match a.semantics.orderKey?, b.semantics.orderKey? with
  | some k, some l =>
    if a.typeName == b.typeName && k.name == l.name then some (Ord.compare k.text l.text) else none
  | _, _ => none

/-- Two objects are equal if they are the same one, or if their declared equality says so. -/
def equal (a b : Entity) : Bool := a.address == b.address || (a.equals? b).getD false

/-- Equal objects are `eq`; others go by their declared order, or else by type name and
address. -/
def compare (a b : Entity) : Ordering :=
  if a.equal b then .eq
  else match a.compare? b with
    | some o => o
    | none => (Ord.compare a.typeName b.typeName).then (Ord.compare a.address b.address)

end Entity

/-- The description shared by all identity wrappers of a type.  The serial number tells two
descriptions of the same content apart. -/
structure WrapperType where
  serial : Nat
  target : String
  name : String
  deriving DecidableEq, Repr

/-- A handle to a domain object. -/
inductive Handle where
  /-- The object itself. -/
  | object (entity : Entity)
  /-- A bare stand-in, the allocation `id`, for what `inner` reaches. -/
  | standIn (id : Nat) (inner : Handle)
  /-- An identity wrapper, the allocation `id`, for what `inner` reaches, with the number of the
  identity slot that it shares. -/
  | wrapper (id : Nat) (type : WrapperType) (slot : Nat) (inner : Handle)
  deriving DecidableEq, Repr

namespace Handle

/-- The object at the end of the chain of stand-ins. -/
def target : Handle → Entity
  | .object entity => entity
  | .standIn _ inner | .wrapper _ _ _ inner => inner.target

def allocation : Handle → Nat
  | .object entity => entity.id
  | .standIn id _ | .wrapper id _ _ _ => id

def inner? : Handle → Option Handle
  | .object _ => none
  | .standIn _ inner | .wrapper _ _ _ inner => some inner

/-- Whether the handle is an identity wrapper itself. -/
def isWrapper : Handle → Bool
  | .wrapper .. => true
  | _ => false

/-- The type name of the object, which every stand-in forwards. -/
def typeName (h : Handle) : String := h.target.typeName

def address (h : Handle) : UInt64 := h.target.address

def placeholder (h : Handle) : Int64 := ObjectGraph.placeholder h.address

/-- Whether two handles point at the same allocation. -/
def sameAllocation (a b : Handle) : Bool := a.allocation == b.allocation

def equal (a b : Handle) : Bool := a.target.equal b.target

/-- The order of the objects that two handles reach. -/
def compare (a b : Handle) : Ordering := a.target.compare b.target

/-- The declared equality of the object itself.  A bare stand-in declares none of its own, and a
wrapper has that of what it wraps. -/
def equals? : Handle → Entity → Option Bool
  | .object entity, other => entity.equals? other
  | .standIn .., _ => none
  | .wrapper _ _ _ inner, other => inner.equals? other

/-- The declared order of the handle itself, in the same way. -/
def compare? : Handle → Entity → Option Ordering
  | .object entity, other => entity.compare? other
  | .standIn .., _ => none
  | .wrapper _ _ _ inner, other => inner.compare? other

/-- The key of the declared hash of the handle itself, in the same way. -/
def hashKey? : Handle → Option String
  | .object entity => entity.semantics.equalityKey?.map Key.text
  | .standIn .. => none
  | .wrapper _ _ _ inner => inner.hashKey?

end Handle

end ObjectGraph
