import ObjectGraph.Identity.Wrapper
import ObjectGraph.Outcome

/-!
# The cache of wrapper types

At most `capacity` wrapper types are kept, by type name, in the order of their last use.  A type
that is not there is built and put in; if the cache is full the one that was not used for the
longest time makes room.

* `WrapperCache.ofSettings?`: an empty cache, if there is room for it.
* `WrapperCache.get`: looks a type up, which counts as a use.
* `WrapperCache.getOrBuild`: looks a type up, or builds it and puts it in.
-/

namespace ObjectGraph

/-! ## Settings -/

/-- How many wrapper types are cached if nothing else is said. -/
def defaultCapacity : Nat := 256

theorem defaultCapacity_pos : 0 < defaultCapacity := by decide

/-- How identities are tracked. -/
structure IdentitySettings where
  /-- How many wrapper types are kept at most. -/
  wrapperCacheCapacity : UInt64 := UInt64.ofNat defaultCapacity
  deriving DecidableEq, Repr

namespace IdentitySettings

def capacity? (c : IdentitySettings) : Option Nat :=
  if c.wrapperCacheCapacity.toNat = 0 then none else some c.wrapperCacheCapacity.toNat

def describe (c : IdentitySettings) : String :=
  Text.record "IdentityConfig"
    [("wrapper_cache_capacity", toString c.wrapperCacheCapacity.toNat)]

end IdentitySettings

/-! ## The cache -/

/-- How many entries there is room for.  A cache has the table for all its entries laid out at once,
and a program that asks for more than there is room for ends there. -/
structure Room where
  entries : Nat
  /-- A table has eight slots for seven entries, and they are counted in 64 bits. -/
  counted : 8 * entries < UInt64.size

/-- Wrapper types by type name, the one used last in front. -/
structure WrapperCache where
  capacity : Nat
  entries : List (String × WrapperType) := []
  /-- How many wrapper types have been built. -/
  builds : Nat := 0
  capacity_pos : 0 < capacity := by decide
  deriving DecidableEq, Repr

namespace WrapperCache

/-- The empty cache of a capacity, or of the default one if that is zero.  Without room for as many
entries there is none. -/
def ofCapacity? (room : Room) (capacity : Nat) : Option WrapperCache :=
  let cache : WrapperCache :=
    if h : 0 < capacity then { capacity, capacity_pos := h }
    else { capacity := defaultCapacity, capacity_pos := defaultCapacity_pos }
  if cache.capacity ≤ room.entries then some cache else none

/-- The empty cache of the capacity in the settings, or of the default one if that is zero. -/
def ofSettings? (room : Room) (c : IdentitySettings) : Option WrapperCache :=
  ofCapacity? room (c.capacity?.getD defaultCapacity)

def names (c : WrapperCache) : List String := c.entries.map Prod.fst

def size (c : WrapperCache) : Nat := c.entries.length

/-- Whether a wrapper type is kept.  This is no use. -/
def contains (c : WrapperCache) (typeName : String) : Bool := c.names.contains typeName

/-- The wrapper type of a type name.  This is no use either. -/
def find? (c : WrapperCache) (typeName : String) : Option WrapperType :=
  lookupEntry typeName c.entries

/-- The cache without the wrapper type of a type name. -/
def without (c : WrapperCache) (typeName : String) : List (String × WrapperType) :=
  c.entries.filter fun entry => entry.1 != typeName

/-- Looks a wrapper type up.  One that is found moves to the front. -/
def get (c : WrapperCache) (typeName : String) : Option WrapperType × WrapperCache :=
  match c.find? typeName with
  | some type => (some type, { c with entries := (typeName, type) :: c.without typeName })
  | none => (none, c)

/-- Puts a wrapper type in front.  In a full cache the last one makes room; its name is the first
component. -/
def push (c : WrapperCache) (typeName : String) (type : WrapperType) :
    Option String × WrapperCache :=
  if c.entries.length < c.capacity then
    (none, { c with entries := (typeName, type) :: c.entries })
  else
    (c.names.getLast?, { c with entries := (typeName, type) :: c.entries.dropLast })

/-- The empty cache of the same capacity, which remembers how many types were built. -/
def clear (c : WrapperCache) : WrapperCache := { c with entries := [] }

/-- How to build a wrapper type that is not there.  Building may use the cache itself. -/
abbrev Builder := WrapperCache → Outcome WrapperCache IdentityError WrapperType

/-- Builds the wrapper type of a class; its serial number is the number of types built so far. -/
def building (info : EntityClass) : Builder := fun c =>
  .ofExcept c (WrapperType.build info c.builds)

/-- Keeps a wrapper type that was just built, unless one for the type name is there by now. -/
def keep (c : WrapperCache) (typeName : String) (built : WrapperType) :
    Outcome WrapperCache IdentityError WrapperType :=
  let (found, c) := { c with builds := c.builds + 1 }.get typeName
  match found with
  | some type => .pure c type
  | none =>
    let (evicted, c) := c.push typeName built
    let events := match evicted with
      | some name => [.wrapperTypeEvicted typeName name]
      | none => []
    ⟨.ok built, c, events ++ [.wrapperTypeCached typeName built.name]⟩

/-- Looks a wrapper type up, or builds it and puts it in.  What could not be built is not put
in. -/
def getOrBuild (c : WrapperCache) (typeName : String) (build : Builder) :
    Outcome WrapperCache IdentityError WrapperType :=
  let (found, c) := c.get typeName
  match found with
  | some type => .pure c type
  | none =>
    let o := build c
    match o.result with
    | .error e => ⟨.error e, o.state, o.events ++ [.wrapperTypeFailed typeName e.message]⟩
    | .ok built =>
      let kept := o.state.keep typeName built
      { kept with events := o.events ++ kept.events }

def describe (c : WrapperCache) : String :=
  Text.record "WrapperTypeCache"
    [("len", toString c.size), ("capacity", toString c.capacity), ("builds", toString c.builds)]

end WrapperCache

end ObjectGraph
