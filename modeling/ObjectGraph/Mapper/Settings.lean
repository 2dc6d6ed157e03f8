import ObjectGraph.Identity.WrapperCache
import ObjectGraph.Json.Decode
import ObjectGraph.Mapper.File
import ObjectGraph.Merge
import ObjectGraph.Toml.Document

/-!
# Settings of a mapper

How identities are tracked and how containers are merged, with defaults for all that is not said.
The settings are read from TOML documents and from JSON, and written as both; unknown keys are
ignored.

* `MapperSettings.ofToml`: the settings in a document, if they can be used.
* `MapperSettings.toToml`: the document that states some settings.
-/

namespace ObjectGraph

/-- The settings of a mapper. -/
structure MapperSettings where
  identity : IdentitySettings := {}
  merge : MergeSettings := {}
  deriving DecidableEq, Repr

/-- Errors of settings. -/
inductive SettingsError where
  | io (path : String) (cause : FileError)
  /-- The document is malformed, or a setting is of the wrong type. -/
  | malformed
  | zeroCapacity
  deriving DecidableEq, Repr

def SettingsError.message : SettingsError → String
  | .io path cause => "cannot read config file " ++ path ++ ": " ++ cause.message
  | .malformed => "cannot parse config"
  | .zeroCapacity =>
    "invalid config: identity.wrapper_cache_capacity must be greater than zero"

namespace MapperSettings

def describe (c : MapperSettings) : String :=
  Text.record "OgmConfig" [("identity", c.identity.describe), ("merge", c.merge.describe)]

/-- Refuses settings that can be written but not used: those without capacity. -/
def check (c : MapperSettings) : Except SettingsError Unit :=
  if c.identity.capacity?.isNone then .error .zeroCapacity else .ok ()

end MapperSettings

/-! ## TOML -/

namespace Toml.Item

/-- The items of a record's fields, each if it is there: by name in a table, by position in an
array.  A point in time counts as a table without known names. -/
def fields? (names : List String) : Item → Option (List (Option Item))
  | .table _ entries => some (names.map fun name => Entries.find? entries name)
  | .array items | .tables items => some ((List.range names.length).map fun i => items[i]?)
  | .moment => some (names.map fun _ => none)
  | _ => none

def isEmpty : Item → Bool
  | .table _ entries => entries.isEmpty
  | .array items | .tables items => items.isEmpty
  | _ => false

/-- The name of a choice without content: a text, or a table whose one entry has that name and is
empty. -/
def unitName? : Item → Option String
  | .text name => some name
  | .table _ [(name, content)] => if content.isEmpty then some name else none
  | _ => none

def uint64? : Item → Option UInt64
  | .integer i => if 0 ≤ i then some i.toUInt64 else none
  | _ => none

def field? {α : Type} (read? : Item → Option α) (fallback : α) : Option Item → Option α
  | none => some fallback
  | some item => read? item

end Toml.Item

def IdentitySettings.ofItem? (item : Toml.Item) : Option IdentitySettings :=
  match item.fields? ["wrapper_cache_capacity"] with
  | some [capacity] =>
    (Toml.Item.field? Toml.Item.uint64? ({} : IdentitySettings).wrapperCacheCapacity capacity).map
      fun n => ⟨n⟩
  | _ => none

def RepeatMode.ofItem? (item : Toml.Item) : Option RepeatMode :=
  item.unitName? >>= RepeatMode.ofName?

def MergeSettings.ofItem? (item : Toml.Item) : Option MergeSettings :=
  match item.fields? ["list_merge"] with
  | some [mode] =>
    (Toml.Item.field? RepeatMode.ofItem? ({} : MergeSettings).listMerge mode).map fun m => ⟨m⟩
  | _ => none

namespace MapperSettings

def ofItem? (item : Toml.Item) : Option MapperSettings :=
  match item.fields? ["identity", "merge"] with
  | some [identity, merge] => do
    let identity ← Toml.Item.field? IdentitySettings.ofItem? {} identity
    let merge ← Toml.Item.field? MergeSettings.ofItem? {} merge
    return ⟨identity, merge⟩
  | _ => none

/-- The settings in a document, whether they can be used or not. -/
def parse (source : String) : Except SettingsError MapperSettings :=
  match (Toml.Document.read? source).bind fun root => ofItem? root.toItem with
  | some settings => .ok settings
  | none => .error .malformed

/-- The settings in a document, if they can be used. -/
def ofToml (source : String) : Except SettingsError MapperSettings := do
  let settings ← parse source
  settings.check
  return settings

/-- The settings in a file, of which either the content or the cause of failure is given. -/
def load (path : String) (content : Except FileError String) :
    Except SettingsError MapperSettings × List Event :=
  match content with
  | .error cause => (.error (.io path cause), [])
  | .ok source =>
    match ofToml source with
    | .error e => (.error e, [])
    | .ok settings => (.ok settings, [.settingsLoaded path])

def toToml (c : MapperSettings) : String :=
  "[identity]\nwrapper_cache_capacity = " ++ toString c.identity.wrapperCacheCapacity.toNat ++
    "\n\n[merge]\nlist_merge = \"" ++ c.merge.listMerge.name ++ "\"\n"

end MapperSettings

/-! ## JSON -/

namespace IdentitySettings

def ofTree? (t : Json.Tree) : Option IdentitySettings :=
  match t.fields? ["wrapper_cache_capacity"] with
  | some [capacity] =>
    (Json.Tree.field? Json.Tree.uint64? ({} : IdentitySettings).wrapperCacheCapacity capacity).map
      fun n => ⟨n⟩
  | _ => none

def toJson (c : IdentitySettings) : Json.Value :=
  .object [("wrapper_cache_capacity", .number (.unsigned c.wrapperCacheCapacity))]

end IdentitySettings

def RepeatMode.ofTree? (t : Json.Tree) : Option RepeatMode := t.unitName? >>= ofName?

namespace MergeSettings

def ofTree? (t : Json.Tree) : Option MergeSettings :=
  match t.fields? ["list_merge"] with
  | some [mode] =>
    (Json.Tree.field? RepeatMode.ofTree? ({} : MergeSettings).listMerge mode).map fun m => ⟨m⟩
  | _ => none

def toJson (o : MergeSettings) : Json.Value := .object [("list_merge", .string o.listMerge.name)]

end MergeSettings

namespace MapperSettings

def ofTree? (t : Json.Tree) : Option MapperSettings :=
  match t.fields? ["identity", "merge"] with
  | some [identity, merge] => do
    let identity ← Json.Tree.field? IdentitySettings.ofTree? {} identity
    let merge ← Json.Tree.field? MergeSettings.ofTree? {} merge
    return ⟨identity, merge⟩
  | _ => none

def toJson (c : MapperSettings) : Json.Value :=
  .object [("identity", c.identity.toJson), ("merge", c.merge.toJson)]

end MapperSettings

end ObjectGraph
