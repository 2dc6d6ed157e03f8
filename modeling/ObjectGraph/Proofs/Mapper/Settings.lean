import ObjectGraph.Proofs.Mapper.Reconfigured
import ObjectGraph.Proofs.Text.Decimal
import ObjectGraph.Proofs.Toml.Line

/-!
# Settings and their documents

The document that is written for some settings is read line by line into the table that states them,
and from that table the settings come back, if the capacity of the cache is a number that a document can
hold.  Other documents may leave settings out, state them in other forms, or state more; the settings
in them can be written too.  A capacity that is written and accepted can still be more than there is
room for, and then there is no mapper with it.

* `MapperSettings.read?_toToml`: the table that is read from the document of some settings.
* `MapperSettings.ofToml_eq_ok_iff`: which documents are accepted.
* `MapperSettings.toml_survives`: settings survive their document, and mappers are made of them where
  there is room.
-/

namespace ObjectGraph

open Toml (Document Item)

/-! ## Settings as items -/

/-- What holds of the default and of every value that can be read holds of a field. -/
theorem Toml.Item.of_field? {α : Type} {read? : Item → Option α} {fallback a : α}
    {field : Option Item} {p : α → Prop} (default : p fallback)
    (values : ∀ item a, read? item = some a → p a) (read : field? read? fallback field = some a) :
    p a := by
  cases field with
  | none =>
    cases read
    exact default
  | some item => exact values item a read

namespace IdentitySettings

variable {c : IdentitySettings} {item : Item}

def toItem (c : IdentitySettings) : Item :=
  .table {} [("wrapper_cache_capacity", .integer c.wrapperCacheCapacity.toInt64)]

theorem ofItem?_toItem (small : c.wrapperCacheCapacity.toNat < 2 ^ 63) :
    ofItem? c.toItem = some c := by
  have capacity : Item.uint64? (.integer c.wrapperCacheCapacity.toInt64) =
      some c.wrapperCacheCapacity := by
    rw [Item.uint64?, if_pos (toInt64_nonneg_iff.2 small), UInt64.toUInt64_toInt64]
  show (Item.uint64? (.integer c.wrapperCacheCapacity.toInt64)).map _ = _
  rw [capacity]
  rfl

theorem capacity?_of_pos (positive : 0 < c.wrapperCacheCapacity.toNat) :
    c.capacity? = some c.wrapperCacheCapacity.toNat := if_neg (Nat.ne_of_gt positive)

theorem small_default : ({} : IdentitySettings).wrapperCacheCapacity.toNat < 2 ^ 63 := by decide

theorem small_of_uint64? {n : UInt64} (read : item.uint64? = some n) : n.toNat < 2 ^ 63 := by
  unfold Item.uint64? at read
  split at read
  · split_ifs at read with nonneg
    cases read
    exact (toNat_toUInt64 nonneg).2
  · cases read

/-- The default and every capacity that can be written are small. -/
theorem small_of_ofItem? (read : ofItem? item = some c) :
    c.wrapperCacheCapacity.toNat < 2 ^ 63 := by
  unfold ofItem? at read
  split at read
  · obtain ⟨n, value, rfl⟩ := Option.map_eq_some_iff.1 read
    exact Item.of_field? (p := fun n => n.toNat < 2 ^ 63) small_default
      (fun _ _ => small_of_uint64?) value
  · cases read

end IdentitySettings

namespace RepeatMode

theorem isPlain_name (mode : RepeatMode) : Toml.IsPlain mode.name := by
  cases mode <;> decide

theorem ofName?_name (mode : RepeatMode) : ofName? mode.name = some mode := by
  cases mode <;> rfl

end RepeatMode

namespace MergeSettings

def toItem (c : MergeSettings) : Item := .table {} [("list_merge", .text c.listMerge.name)]

theorem ofItem?_toItem (c : MergeSettings) : ofItem? c.toItem = some c := by
  show (RepeatMode.ofName? c.listMerge.name).map _ = _
  rw [c.listMerge.ofName?_name]
  rfl

end MergeSettings

namespace MapperSettings

variable {c : MapperSettings} {item : Item} {source : String}

/-- The root table of the document that is written for some settings. -/
def toTable (c : MapperSettings) : Toml.Table :=
  ⟨{}, [("identity", c.identity.toItem), ("merge", c.merge.toItem)]⟩

theorem ofItem?_toTable (small : c.identity.wrapperCacheCapacity.toNat < 2 ^ 63) :
    ofItem? c.toTable.toItem = some c := by
  show (IdentitySettings.ofItem? c.identity.toItem).bind
    (fun identity => (MergeSettings.ofItem? c.merge.toItem).bind _) = _
  rw [IdentitySettings.ofItem?_toItem small, c.merge.ofItem?_toItem]
  rfl

theorem small_of_ofItem? (read : ofItem? item = some c) :
    c.identity.wrapperCacheCapacity.toNat < 2 ^ 63 := by
  unfold ofItem? at read
  split at read
  · obtain ⟨identity, value, rest⟩ := Option.bind_eq_some_iff.1 read
    obtain ⟨merge, -, made⟩ := Option.bind_eq_some_iff.1 rest
    cases made
    exact Item.of_field? (p := fun c => c.wrapperCacheCapacity.toNat < 2 ^ 63)
      IdentitySettings.small_default (fun _ _ => IdentitySettings.small_of_ofItem?) value
  · cases read

/-! ## The document of some settings -/

theorem toList_toToml (c : MapperSettings) : c.toToml.toList =
    '[' :: ("identity".toList ++ ("]\n".toList ++ ("wrapper_cache_capacity".toList ++
      (" = ".toList ++ (Nat.toDigits 10 c.identity.wrapperCacheCapacity.toNat ++
      '\n' :: '\n' :: '[' :: ("merge".toList ++ ("]\n".toList ++ ("list_merge".toList ++
      (" = ".toList ++ ('"' :: (c.merge.listMerge.name.toList ++ ['"', '\n']))))))))))) := by
  have first : "[identity]\nwrapper_cache_capacity = ".toList = '[' :: ("identity".toList ++
      ("]\n".toList ++ ("wrapper_cache_capacity".toList ++ " = ".toList))) := rfl
  have second : "\n\n[merge]\nlist_merge = \"".toList = '\n' :: '\n' :: '[' :: ("merge".toList ++
      ("]\n".toList ++ ("list_merge".toList ++ (" = ".toList ++ ['"'])))) := rfl
  have third : "\"\n".toList = ['"', '\n'] := rfl
  unfold toToml
  rw [Nat.toString_eq_ofList_toDigits]
  simp only [String.toList_append, String.toList_ofList]
  rw [first, second, third]
  simp only [List.append_assoc, List.cons_append, List.nil_append]

/-- The lines of the document are read one by one, and no fuel is missing. -/
theorem lines?_toToml (small : c.identity.wrapperCacheCapacity.toNat < 2 ^ 63) (fuel : Nat) :
    Document.lines? (fuel + 6) {} c.toToml.toList = some ⟨c.toTable, ["merge"]⟩ := by
  have bare : ∀ name ∈ ["identity", "wrapper_cache_capacity", "merge", "list_merge"],
      Toml.IsBare name := by decide
  simp only [List.forall_mem_cons] at bare
  obtain ⟨identity, wrapperCacheCapacity, merge, listMerge, -⟩ := bare
  rw [toList_toToml,
    Document.lines?_header identity rfl,
    Document.lines?_entry wrapperCacheCapacity (Toml.isBlank_head?_toDigits _ _)
      (fun fuel => Toml.value?_toDigits small fuel 0 _) rfl,
    Document.lines?_empty,
    Document.lines?_header merge rfl,
    Document.lines?_entry listMerge (fun _ quote => by cases quote; rfl)
      (fun fuel => Toml.value?_plain c.merge.listMerge.isPlain_name fuel 0 _) rfl,
    ofInt_toNat]
  rfl

theorem read?_toToml (small : c.identity.wrapperCacheCapacity.toNat < 2 ^ 63) :
    Document.read? c.toToml = some c.toTable := by
  have long : 5 ≤ c.toToml.toList.length := by
    have name : "identity".toList.length = 8 := rfl
    rw [toList_toToml, List.length_cons, List.length_append]
    omega
  obtain ⟨fuel, enough⟩ := Nat.exists_eq_add_of_le' long
  unfold Document.read?
  split
  · next front =>
    rw [toList_toToml] at front
    exact absurd (List.cons.inj front).1 (by decide)
  · dsimp only
    rw [enough, lines?_toToml small]
    rfl

theorem parse_eq_ok_iff : parse source = .ok c ↔
    (Document.read? source).bind (fun root => ofItem? root.toItem) = some c := by
  unfold parse
  split
  · next read => rw [read, Except.ok.injEq, Option.some.injEq]
  · next read => simp [read]

theorem check_eq_ok_iff : c.check = .ok () ↔ 0 < c.identity.wrapperCacheCapacity.toNat := by
  rcases Nat.eq_zero_or_pos c.identity.wrapperCacheCapacity.toNat with zero | positive
  · have none : c.identity.capacity? = none := if_pos zero
    simp [check, none, zero]
  · have room := IdentitySettings.capacity?_of_pos positive
    simp [check, room, positive]

/-- A document is accepted if it can be read and leaves room for wrapper types. -/
theorem ofToml_eq_ok_iff : ofToml source = .ok c ↔
    parse source = .ok c ∧ 0 < c.identity.wrapperCacheCapacity.toNat := by
  rw [← check_eq_ok_iff, ofToml]
  cases parse source with
  | error e =>
    constructor
    · intro read
      cases read
    · rintro ⟨read, -⟩
      cases read
  | ok settings =>
    show (settings.check >>= fun _ => Except.ok settings) = .ok c ↔ _
    cases checked : settings.check with
    | error e =>
      constructor
      · intro read
        cases read
      · rintro ⟨same, accepted⟩
        cases same
        rw [checked] at accepted
        cases accepted
    | ok =>
      constructor
      · intro read
        cases read
        exact ⟨rfl, checked⟩
      · exact And.left

theorem ofToml_toToml (positive : 0 < c.identity.wrapperCacheCapacity.toNat)
    (small : c.identity.wrapperCacheCapacity.toNat < 2 ^ 63) : ofToml c.toToml = .ok c := by
  refine ofToml_eq_ok_iff.2 ⟨parse_eq_ok_iff.2 ?_, positive⟩
  rw [read?_toToml small]
  exact ofItem?_toTable small

theorem small_of_parse (read : parse source = .ok c) :
    c.identity.wrapperCacheCapacity.toNat < 2 ^ 63 := by
  obtain ⟨root, -, settings⟩ := Option.bind_eq_some_iff.1 (parse_eq_ok_iff.1 read)
  exact small_of_ofItem? settings

end MapperSettings

/-! ## Mappers with some settings -/

/-- A cache of a positive capacity is made if there is room for it. -/
theorem WrapperCache.ofCapacity?_eq_some_iff {room : Room} {capacity : Nat} {cache : WrapperCache}
    (positive : 0 < capacity) :
    ofCapacity? room capacity = some cache ↔
      capacity ≤ room.entries ∧ cache = { capacity, capacity_pos := positive } := by
  rw [ofCapacity?, dif_pos positive]
  dsimp only
  split_ifs with fits
  · simp [fits, eq_comm]
  · simp [fits]

namespace Mapper

variable {room : Room} {c : MapperSettings} {w : Workspace}

/-- What a mapper is made of: the settings and the coercion that it was given, in the policy of its
merges too, and a cache of the capacity in the settings. -/
structure MadeOf (m : Mapper) (w : Workspace) (c : MapperSettings) (coercion : Coercion) :
    Prop where
  settings : m.settings = c
  policy : m.policy = ⟨coercion, c.merge⟩
  cache : ∃ cache, w.caches[m.cache]? = some cache ∧
    cache.capacity = c.identity.wrapperCacheCapacity.toNat

theorem exists_build? (positive : 0 < c.identity.wrapperCacheCapacity.toNat)
    (fits : c.identity.wrapperCacheCapacity.toNat ≤ room.entries) (w : Workspace)
    (coercion : Coercion) :
    ∃ m w', build? room w c coercion = some (m, w') ∧ m.MadeOf w' c coercion := by
  have made := (WrapperCache.ofCapacity?_eq_some_iff positive).2 ⟨fits, rfl⟩
  rw [build?, WrapperCache.ofSettings?, IdentitySettings.capacity?_of_pos positive,
    Option.getD_some, made]
  exact ⟨_, _, rfl, rfl, rfl, _, List.getElem?_concat_length, rfl⟩

theorem build?_eq_none (positive : 0 < c.identity.wrapperCacheCapacity.toNat)
    (exceeds : room.entries < c.identity.wrapperCacheCapacity.toNat) (w : Workspace)
    (coercion : Coercion) : build? room w c coercion = none := by
  rw [build?, WrapperCache.ofSettings?, IdentitySettings.capacity?_of_pos positive,
    Option.getD_some, Option.map_eq_none_iff, Option.eq_none_iff_forall_ne_some]
  intro cache made
  have fits := ((WrapperCache.ofCapacity?_eq_some_iff positive).1 made).1
  omega

theorem MadeOf.reconfigured {m : Mapper} {coercion : Coercion} (made : m.MadeOf w c coercion)
    (coercions : List Coercion) :
    (m.reconfigured (coercions.map .coercion)).MadeOf w c (coercions.getLast?.getD coercion) := by
  have coercion? : (coercions.map Change.coercion).filterMap Change.coercion? = coercions := by
    rw [List.filterMap_map]
    exact List.filterMap_some
  have cache? : (coercions.map Change.coercion).filterMap Change.cache? = [] := by
    rw [List.filterMap_map]
    exact List.filterMap_none coercions
  obtain ⟨own, merge⟩ := MergePolicy.mk.inj made.policy
  rw [reconfigured_eq, coercion?, cache?, own]
  exact ⟨made.settings, congrArg (MergePolicy.mk _) merge, made.cache⟩

theorem withSettings?_eq (positive : 0 < c.identity.wrapperCacheCapacity.toNat) :
    withSettings? room w c = (build? room w c Coercion.standard).map .ok := by
  rw [withSettings?, MapperSettings.check_eq_ok_iff.2 positive]

theorem ofFile?_eq {source path : String} (read : MapperSettings.ofToml source = .ok c) :
    (ofFile? room w path (.ok source)).1 = withSettings? room w c := by
  rw [ofFile?, MapperSettings.load, read]

end Mapper

/-- **Settings survive their document and reach the mapper, where there is room.**  Settings whose
capacity is a positive number below 2 ^ 63 are read from the document that is written for them.  The
settings that are read from any document have such a capacity, so they survive too.  A mapper that is
made with them, or from a file with that document, has a cache of that capacity and merges lists in
their mode, however often its coercion is replaced.  But where there is no room for a cache of that
capacity no mapper is made, although the settings were checked. -/
theorem MapperSettings.toml_survives (room : Room) (w : Workspace) :
    (∀ c : MapperSettings, 0 < c.identity.wrapperCacheCapacity.toNat →
      c.identity.wrapperCacheCapacity.toNat < 2 ^ 63 → ofToml c.toToml = .ok c) ∧
    ∀ source c, ofToml source = .ok c →
      (0 < c.identity.wrapperCacheCapacity.toNat ∧
        c.identity.wrapperCacheCapacity.toNat < 2 ^ 63) ∧
      ofToml c.toToml = .ok c ∧
      (c.identity.wrapperCacheCapacity.toNat ≤ room.entries →
        ∃ m w', Mapper.withSettings? room w c = some (.ok (m, w')) ∧
          (∀ path, (Mapper.ofFile? room w path (.ok source)).1 = some (.ok (m, w'))) ∧
          ∀ coercions : List Coercion,
            (m.reconfigured (coercions.map .coercion)).MadeOf w' c
              (coercions.getLast?.getD Coercion.standard)) ∧
      (room.entries < c.identity.wrapperCacheCapacity.toNat →
        Mapper.withSettings? room w c = none ∧
          ∀ path, (Mapper.ofFile? room w path (.ok source)).1 = none) := by
  refine ⟨fun c => ofToml_toToml, fun source c accepted => ?_⟩
  obtain ⟨read, positive⟩ := ofToml_eq_ok_iff.1 accepted
  have small := small_of_parse read
  refine ⟨⟨positive, small⟩, ofToml_toToml positive small, fun fits => ?_, fun exceeds => ?_⟩
  · obtain ⟨m, w', built, made⟩ := Mapper.exists_build? positive fits w Coercion.standard
    have mapper : Mapper.withSettings? room w c = some (.ok (m, w')) := by
      rw [Mapper.withSettings?_eq positive, built]
      rfl
    exact ⟨m, w', mapper, fun path => (Mapper.ofFile?_eq accepted).trans mapper,
      made.reconfigured⟩
  · have mapper : Mapper.withSettings? room w c = none := by
      rw [Mapper.withSettings?_eq positive, Mapper.build?_eq_none positive exceeds]
      rfl
    exact ⟨mapper, fun path => (Mapper.ofFile?_eq accepted).trans mapper⟩

/-- A capacity with a dotted key, separated digits, comments and entries that are ignored, and just the
room for it. -/
theorem MapperSettings.toml_survives_dotted :
    let source := "identity.wrapper_cache_capacity = 1_000_000\r\n" ++
      "[other]\nkey = [1.5, 2024-02-29]\n\n[ merge ] # lists\n'list_merge' = 'append'"
    let c : MapperSettings := ⟨⟨1000000⟩, ⟨.append⟩⟩
    ofToml source = .ok c ∧
      c.toToml = "[identity]\nwrapper_cache_capacity = 1000000\n\n" ++
        "[merge]\nlist_merge = \"append\"\n" ∧
      ofToml c.toToml = .ok c ∧
      ∃ m w, Mapper.withSettings? ⟨1000000, by decide⟩ {} c = some (.ok (m, w)) ∧
        (m.withCoercion Coercion.standard).MadeOf w c Coercion.standard := by
  intro source c
  have accepted : ofToml source = .ok c :=
    ofToml_eq_ok_iff.2 ⟨parse_eq_ok_iff.2 (by decide +kernel), by decide⟩
  obtain ⟨-, survives⟩ := toml_survives ⟨1000000, by decide⟩ {}
  obtain ⟨-, again, mappers, -⟩ := survives source c accepted
  obtain ⟨m, w, made, -, kept⟩ := mappers (Nat.le_refl _)
  exact ⟨accepted, by decide +kernel, again, m, w, made, kept [Coercion.standard]⟩

/-- **The largest capacity that can be written leaves no mapper.**  It is accepted, and survives its
document, but there is never room for it. -/
theorem MapperSettings.toml_without_room :
    let source := "[identity]\nwrapper_cache_capacity = 9223372036854775807\n"
    let c : MapperSettings := ⟨⟨9223372036854775807⟩, {}⟩
    ofToml source = .ok c ∧ ofToml c.toToml = .ok c ∧
      ∀ (room : Room) (w : Workspace), Mapper.withSettings? room w c = none := by
  intro source c
  have positive : 0 < c.identity.wrapperCacheCapacity.toNat := by decide
  refine ⟨ofToml_eq_ok_iff.2 ⟨parse_eq_ok_iff.2 (by decide +kernel), positive⟩,
    ofToml_toToml positive (by decide), fun room w => ?_⟩
  have capacity : c.identity.wrapperCacheCapacity.toNat = 9223372036854775807 := rfl
  have exceeds : room.entries < c.identity.wrapperCacheCapacity.toNat := by
    have counted := room.counted
    rw [UInt64.size] at counted
    omega
  rw [Mapper.withSettings?_eq positive, Mapper.build?_eq_none positive exceeds]
  rfl

end ObjectGraph
