import ObjectGraph.Identity.Tracker
import ObjectGraph.Mapper.Settings

/-!
# The mapper

A mapper brings its settings, a coercion and a tracker to the mapped classes: it fills the
collection fields of objects with what the store holds, and finds and records their identities.
Mappers work on one workspace, where they share the objects, the classes and, if they are told to, a
cache of wrapper types.

* `Mapper.withSettings?`: a mapper with given settings.
* `Mapper.hydrate`: merges values from the store into a field.
* `Mapper.withCoercion`, `Mapper.withCache`: the mapper with one part replaced.
-/

namespace ObjectGraph

/-- Errors of a mapper. -/
inductive MapperError where
  | settings (error : SettingsError)
  | merge (error : MergeError)
  | identity (error : IdentityError)
  | schema (error : SchemaError)
  deriving DecidableEq, Repr

def MapperError.message : MapperError → String
  | .settings error => "config error: " ++ error.message
  | .merge error => "merge error: " ++ error.message
  | .identity error => "identity error: " ++ error.message
  | .schema error => "metadata error: " ++ error.message

/-- What mappers work on. -/
structure Workspace where
  heap : Heap := {}
  schema : Schema := {}
  /-- All caches of wrapper types, by their numbers. -/
  caches : List WrapperCache := []

namespace Workspace

def cache (w : Workspace) (number : Nat) : WrapperCache :=
  (w.caches[number]?).getD { capacity := defaultCapacity, capacity_pos := defaultCapacity_pos }

def addCache (w : Workspace) (cache : WrapperCache) : Nat × Workspace :=
  (w.caches.length, { w with caches := w.caches ++ [cache] })

/-- A collection field of an object, and the container that it holds. -/
def collection (w : Workspace) (h : Handle) (name : String) :
    Except SchemaError (CollectionField × Option Container) := do
  let info ← w.schema.classOf h
  let field ← info.collection name
  let current ← field.read w.heap h
  return (field, current)

end Workspace

/-- A mapper. -/
structure Mapper where
  settings : MapperSettings := {}
  coercion : Coercion := Coercion.standard
  /-- The number of its cache of wrapper types. -/
  cache : Nat
  /-- The objects that it wrapped. -/
  roster : Roster := {}

namespace Mapper

/-! ## Making mappers -/

/-- A mapper with settings that have been checked, and a cache of its own.  If there is no room for
the cache the program ends, and there is no mapper. -/
def build? (room : Room) (w : Workspace) (settings : MapperSettings) (coercion : Coercion) :
    Option (Mapper × Workspace) :=
  (WrapperCache.ofSettings? room settings.identity).map fun empty =>
    let (cache, w) := w.addCache empty
    ({ settings, coercion, cache }, w)

def new? (room : Room) (w : Workspace) : Option (Mapper × Workspace) :=
  build? room w {} Coercion.standard

/-- A mapper with given settings, which are checked first, or the error that is found; neither if the
program ends. -/
def withSettings? (room : Room) (w : Workspace) (settings : MapperSettings) :
    Option (Except MapperError (Mapper × Workspace)) :=
  match settings.check with
  | .error e => some (.error (.settings e))
  | .ok () => (build? room w settings Coercion.standard).map .ok

/-- A mapper with the settings in a file, of which either the content or the cause of failure is
given. -/
def ofFile? (room : Room) (w : Workspace) (path : String) (content : Except FileError String) :
    Option (Except MapperError (Mapper × Workspace)) × List Event :=
  let (settings, events) := MapperSettings.load path content
  match settings with
  | .error e => (some (.error (.settings e)), events)
  | .ok settings => (withSettings? room w settings, events)

/-- The mapper with another coercion.  It keeps its cache and starts with an empty roster. -/
def withCoercion (m : Mapper) (coercion : Coercion) : Mapper := { m with coercion, roster := {} }

/-- The mapper with another cache.  It starts with an empty roster. -/
def withCache (m : Mapper) (cache : Nat) : Mapper := { m with cache, roster := {} }

def policy (m : Mapper) : MergePolicy := ⟨m.coercion, m.settings.merge⟩

def describe (m : Mapper) (w : Workspace) : String :=
  Text.record "Ogm"
    [("config", m.settings.describe),
      ("identity", Tracker.describeWith (w.cache m.cache) m.roster.size)]

/-! ## Hydration -/

def merge (m : Mapper) (shape : Shape) (element : ElementType) (new : Payload)
    (current : Option Container) : Except MapperError Container :=
  (m.policy.merge shape element new current).mapError .merge

/-- Merges values from the store into a collection field of an object and writes the result
back.  Nothing is written unless everything before has succeeded. -/
def hydrate (m : Mapper) (w : Workspace) (h : Handle) (name : String) (new : Payload) :
    Outcome Workspace MapperError Container :=
  match w.collection h name with
  | .error e => .failed w (.schema e)
  | .ok (field, current) =>
    match m.policy.merge field.shape field.element new current with
    | .error e => .failed w (.merge e)
    | .ok merged =>
      let event := MergePolicy.mergeEvent field.shape field.element new current merged
      match field.write w.heap h merged with
      | .error e => ⟨.error (.schema e), w, [event]⟩
      | .ok heap =>
        ⟨.ok merged, { w with heap }, [event, .hydrated h.typeName name merged.length]⟩

/-- The same for a JSON value that the store holds. -/
def hydrateJson (m : Mapper) (w : Workspace) (h : Handle) (name : String) (new : Json.Value) :
    Outcome Workspace MapperError Container :=
  match Payload.ofJson new with
  | .error e => .failed w (.merge e)
  | .ok payload => m.hydrate w h name payload

def labels (w : Workspace) (h : Handle) : Except MapperError (List String) :=
  match w.schema.classOf h with
  | .error e => .error (.schema e)
  | .ok info => (info.labels w.heap h).mapError .schema

/-! ## Identities -/

def rules (m : Mapper) (w : Workspace) : TrackingRules := ⟨w.schema, m.coercion⟩

def tracker (m : Mapper) (w : Workspace) : Tracker := ⟨w.heap, w.cache m.cache, m.roster⟩

/-- The mapper and the workspace after the tracker has worked. -/
def restore (m : Mapper) (w : Workspace) (t : Tracker) : Mapper × Workspace :=
  ({ m with roster := t.roster },
    { w with heap := t.heap, caches := w.caches.set m.cache t.cache })

/-- What the tracker has done, seen from the mapper. -/
def ofTracker {α : Type} (m : Mapper) (w : Workspace) (o : Outcome Tracker IdentityError α) :
    Outcome (Mapper × Workspace) MapperError α :=
  (o.mapState (m.restore w)).mapError .identity

/-- The store identity of an object, if it has one. -/
def storeIdentity (m : Mapper) (w : Workspace) (h : Handle) :
    Except MapperError (Option EntityId) :=
  ((m.tracker w).storeIdentity (m.rules w) h).mapError .identity

/-- The store identity of an object, or its placeholder if it has none. -/
def identityOrPlaceholder (m : Mapper) (w : Workspace) (h : Handle) : Except MapperError Int64 :=
  ((m.tracker w).identityOrPlaceholder (m.rules w) h).mapError .identity

def assign (m : Mapper) (w : Workspace) (h : Handle) (id : EntityId) :
    Outcome (Mapper × Workspace) MapperError Unit :=
  m.ofTracker w ((m.tracker w).assign (m.rules w) h id)

/-- A handle that can carry the identity of an object. -/
def wrap (m : Mapper) (w : Workspace) (h : Handle) :
    Outcome (Mapper × Workspace) MapperError Handle :=
  m.ofTracker w ((m.tracker w).wrap (m.rules w) h)

end Mapper

end ObjectGraph
