/-!
# Events

What the library reports about its work: each event has a level, a fixed message and fields with
their texts.
-/

namespace ObjectGraph

/-- How important an event is. -/
inductive Level where
  | warn
  | debug
  | trace
  deriving DecidableEq, Repr

/-- Something that happened. -/
inductive Event where
  | wrapperTypeFailed (typeName error : String)
  | wrapperTypeEvicted (typeName evicted : String)
  | wrapperTypeCached (typeName wrapper : String)
  | identityReassigned (typeName : String) (previous id : String)
  | identityStored (typeName : String) (id : String)
  | identityAssigned (typeName field : String) (id : String)
  | entityWrapped (typeName wrapper : String)
  | rosterPruned (before after : Nat)
  | classRegistered (typeName : String)
  | currentKept (shape : String) (current : Nat)
  | merged (shape element : String) (new current merged : Nat)
  | hydrated (typeName field : String) (length : Nat)
  | settingsLoaded (path : String)
  deriving DecidableEq, Repr

namespace Event

def level : Event → Level
  | .wrapperTypeFailed .. | .wrapperTypeEvicted .. | .identityReassigned .. => .warn
  | .rosterPruned .. => .trace
  | _ => .debug

def message : Event → String
  | .wrapperTypeFailed .. => "wrapper type construction failed"
  | .wrapperTypeEvicted .. => "wrapper type evicted"
  | .wrapperTypeCached .. => "wrapper type cached"
  | .identityReassigned .. => "store identity reassigned"
  | .identityStored .. => "identity stored in slot"
  | .identityAssigned .. => "identity assigned"
  | .entityWrapped .. => "entity wrapped"
  | .rosterPruned .. => "pruned dead identity entries"
  | .classRegistered .. => "registered class info"
  | .currentKept .. => "no new values; current passed through"
  | .merged .. => "merged container"
  | .hydrated .. => "collection hydrated"
  | .settingsLoaded .. => "loaded mapper config"

def fields : Event → List (String × String)
  | .wrapperTypeFailed t e => [("type_name", t), ("error", e)]
  | .wrapperTypeEvicted t e => [("type_name", t), ("evicted", e)]
  | .wrapperTypeCached t w => [("type_name", t), ("wrapper", w)]
  | .identityReassigned t p i => [("type_name", t), ("previous", p), ("id", i)]
  | .identityStored t i => [("type_name", t), ("id", i)]
  | .identityAssigned t f i => [("type_name", t), ("field", f), ("id", i)]
  | .entityWrapped t w => [("type_name", t), ("wrapper", w)]
  | .rosterPruned b a => [("before", toString b), ("after", toString a)]
  | .classRegistered t => [("type_name", t)]
  | .currentKept s c => [("shape", s), ("current", toString c)]
  | .merged s e n c m =>
    [("shape", s), ("element", e), ("new", toString n), ("current", toString c),
      ("merged", toString m)]
  | .hydrated t f n => [("type_name", t), ("field", f), ("len", toString n)]
  | .settingsLoaded p => [("path", p)]

def levelName (e : Event) : String :=
  match e.level with
  | .warn => "WARN"
  | .debug => "DEBUG"
  | .trace => "TRACE"

end Event

end ObjectGraph
