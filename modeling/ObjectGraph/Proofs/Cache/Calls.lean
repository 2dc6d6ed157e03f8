import Mathlib.Data.List.Basic
import ObjectGraph.Identity.WrapperCache

/-!
# Calls on a cache of wrapper types

`WrapperCache.Call` is one call on a cache, with builders that leave the cache alone.  All that a
call can do to a cache is said once, by `WrapperCache.Change`; whatever holds of caches over many
calls follows from it.

* `WrapperCache.change`: what a call does.
* `WrapperCache.StaysResident.find?_eq`: a wrapper type is the same one for as long as its name is
  resident.
* `WrapperCache.Numbered.run`: no serial number is given twice.
-/

namespace ObjectGraph

/-! ## Looking up by name -/

section Lookup

variable {α : Type} {name key : String} {value : α} {entries rest : List (String × α)}

theorem lookupEntry_cons :
    lookupEntry name ((key, value) :: rest) =
      if name = key then some value else lookupEntry name rest := rfl

theorem lookupEntry_eq_none_iff : lookupEntry name entries = none ↔ name ∉ entries.map Prod.fst := by
  induction entries with
  | nil => simp [lookupEntry]
  | cons entry rest ih =>
    obtain ⟨key, held⟩ := entry
    by_cases same : name = key
    · simp [lookupEntry, same]
    · simp [lookupEntry, same, ih]

theorem mem_of_lookupEntry (found : lookupEntry name entries = some value) :
    (name, value) ∈ entries := by
  induction entries with
  | nil => cases found
  | cons entry rest ih =>
    obtain ⟨key, held⟩ := entry
    unfold lookupEntry at found
    split at found
    · next same =>
      cases found
      rw [same]
      exact List.mem_cons_self
    · exact List.mem_cons_of_mem _ (ih found)

theorem lookupEntry_append (there : name ∈ entries.map Prod.fst) :
    lookupEntry name (entries ++ rest) = lookupEntry name entries := by
  induction entries with
  | nil => cases there
  | cons entry rest ih =>
    obtain ⟨key, held⟩ := entry
    by_cases same : name = key
    · simp [lookupEntry, same]
    · have later : name ∈ rest.map Prod.fst := by simpa [same] using there
      simp [lookupEntry, same, ih later]

theorem lookupEntry_filter (other : name ≠ key) :
    lookupEntry name (entries.filter fun entry => entry.1 != key) = lookupEntry name entries := by
  induction entries with
  | nil => rfl
  | cons entry rest ih =>
    obtain ⟨here, held⟩ := entry
    by_cases removed : here = key
    · subst removed
      simp [lookupEntry, other, ih]
    · simp [lookupEntry, removed, ih]

end Lookup

namespace WrapperCache

variable {c : WrapperCache} {name : String} {type : WrapperType}

theorem find?_eq_none_iff : c.find? name = none ↔ name ∉ c.names := lookupEntry_eq_none_iff

theorem contains_iff : c.contains name = true ↔ name ∈ c.names := List.contains_iff_mem

theorem mem_names_of_find? (found : c.find? name = some type) : name ∈ c.names := by
  by_contra missing
  rw [find?_eq_none_iff.2 missing] at found
  cases found

/-! ## Builders that leave the cache alone -/

/-- What a builder comes to: an error, or the target and the name of a wrapper type. -/
abbrev Plan := Except IdentityError (String × String)

/-- The wrapper type of a plan.  It is a new one, with a serial number of its own. -/
def described (c : WrapperCache) (content : String × String) : WrapperType :=
  ⟨c.builds, content.1, content.2⟩

/-- The builder that carries out a plan and does not use the cache. -/
def describing (plan : Plan) : Builder := fun c => .ofExcept c (plan.map c.described)

/-- The plan for a class: there is an obstacle, or the wrapper type is named after the class. -/
def planOf (info : EntityClass) : Plan :=
  match info.wrapperObstacle? with
  | some obstacle => .error (.wrapperConstruction info.typeName obstacle)
  | none => .ok (info.typeName, info.typeName ++ "$IdentityWrapper")

/-- The builder for a class carries out the plan for it. -/
theorem building_eq (info : EntityClass) : building info = describing (planOf info) := by
  funext c
  unfold building describing planOf WrapperType.build
  cases info.wrapperObstacle? with
  | some obstacle => rfl
  | none => rfl

theorem planOf_eq_error_iff {info : EntityClass} {e : IdentityError} :
    planOf info = .error e ↔ ∃ obstacle, info.wrapperObstacle? = some obstacle ∧
      e = .wrapperConstruction info.typeName obstacle := by
  unfold planOf
  cases info.wrapperObstacle? with
  | some obstacle => simp [eq_comm]
  | none => simp

theorem obstacle_of_planOf_eq_ok {info : EntityClass} {content : String × String}
    (planned : planOf info = .ok content) : info.wrapperObstacle? = none := by
  unfold planOf at planned
  cases obstacle : info.wrapperObstacle? with
  | some found =>
    rw [obstacle] at planned
    cases planned
  | none => rfl

/-! ## What a look-up leaves -/

/-- A wrapper type that is there was used. -/
def touch (c : WrapperCache) (name : String) (type : WrapperType) : WrapperCache :=
  { c with entries := (name, type) :: c.without name }

/-- What stays when a wrapper type comes in: all, or all but the last one. -/
def spared (c : WrapperCache) : List (String × WrapperType) :=
  if c.size < c.capacity then c.entries else c.entries.dropLast

/-- A wrapper type was built and put in. -/
def add (c : WrapperCache) (name : String) (type : WrapperType) : WrapperCache :=
  { c with entries := (name, type) :: c.spared, builds := c.builds + 1 }

theorem spared_sublist : c.spared.Sublist c.entries := by
  unfold spared
  split
  · exact .refl _
  · exact List.dropLast_sublist _

theorem get_of_some (found : c.find? name = some type) : c.get name = (some type, c.touch name type) := by
  unfold get
  rw [found]
  rfl

theorem get_of_none (missing : c.find? name = none) : c.get name = (none, c) := by
  unfold get
  rw [missing]

/-- How a look-up with a builder ends. -/
inductive Finds (c : WrapperCache) (name : String) (plan : Plan) :
    Outcome WrapperCache IdentityError WrapperType → Prop
  | hit {type : WrapperType} : c.find? name = some type →
    Finds c name plan ⟨.ok type, c.touch name type, []⟩
  | failed {e : IdentityError} {events : List Event} : c.find? name = none → plan = .error e →
    Finds c name plan ⟨.error e, c, events⟩
  | built {content : String × String} {events : List Event} : c.find? name = none →
    plan = .ok content →
    Finds c name plan ⟨.ok (c.described content), c.add name (c.described content), events⟩

theorem finds (c : WrapperCache) (name : String) (plan : Plan) :
    Finds c name plan (c.getOrBuild name (describing plan)) := by
  cases found : c.find? name with
  | some type =>
    unfold getOrBuild
    rw [get_of_some found]
    exact .hit found
  | none =>
    unfold getOrBuild
    rw [get_of_none found]
    cases plan with
    | error e => exact .failed found rfl
    | ok content =>
      have again : ({ c with builds := c.builds + 1 } : WrapperCache).find? name = none := found
      dsimp only [describing, Outcome.ofExcept, Except.map]
      unfold keep
      rw [get_of_none again]
      have added (events : List Event) : Finds c name (.ok content)
          ⟨.ok (c.described content), c.add name (c.described content), events⟩ := .built found rfl
      by_cases fits : c.entries.length < c.capacity
      · have room : c.spared = c.entries := if_pos fits
        simp only [push, fits, if_true]
        simp only [add, room] at added
        exact added _
      · have room : c.spared = c.entries.dropLast := if_neg fits
        simp only [push, fits, if_false]
        simp only [add, room] at added
        exact added _

/-! ## Calls -/

/-- A call on a cache. -/
inductive Call where
  | get (name : String)
  | getOrBuild (name : String) (plan : Plan)
  | contains (name : String)
  | clear

/-- The cache after a call. -/
def Call.run (c : WrapperCache) : Call → WrapperCache
  | .get name => (c.get name).2
  | .getOrBuild name plan => (c.getOrBuild name (describing plan)).state
  | .contains _ => c
  | .clear => c.clear

/-- The cache after calls one after another. -/
def after (c : WrapperCache) (calls : List Call) : WrapperCache := calls.foldl Call.run c

/-- The name that a call uses: it finds a wrapper type under it, or builds one and puts it in. -/
def Call.used? (c : WrapperCache) : Call → Option String
  | .get name => (c.get name).1.map fun _ => name
  | .getOrBuild name plan => (c.getOrBuild name (describing plan)).result.toOption.map fun _ => name
  | .contains _ | .clear => none

/-- Whether a call finds nothing and builds successfully. -/
def Call.builds (c : WrapperCache) : Call → Bool
  | .getOrBuild name (.ok _) => !c.contains name
  | _ => false

/-- What a call does to a cache, and the name that it uses. -/
inductive Change (c : WrapperCache) : Call → Option String → WrapperCache → Prop
  | missed {name : String} : name ∉ c.names → Change c (.get name) none c
  | got {name : String} {type : WrapperType} : c.find? name = some type →
    Change c (.get name) (some name) (c.touch name type)
  | found {name : String} {plan : Plan} {type : WrapperType} : c.find? name = some type →
    Change c (.getOrBuild name plan) (some name) (c.touch name type)
  | failed {name : String} {e : IdentityError} : name ∉ c.names →
    Change c (.getOrBuild name (.error e)) none c
  | built {name : String} {content : String × String} : name ∉ c.names →
    Change c (.getOrBuild name (.ok content)) (some name) (c.add name (c.described content))
  | contains {name : String} : Change c (.contains name) none c
  | cleared : Change c .clear none c.clear

theorem change (c : WrapperCache) (call : Call) : Change c call (call.used? c) (call.run c) := by
  cases call with
  | get name =>
    unfold Call.run Call.used?
    dsimp only
    cases found : c.find? name with
    | some type =>
      rw [get_of_some found]
      exact .got found
    | none =>
      rw [get_of_none found]
      exact .missed (find?_eq_none_iff.1 found)
  | getOrBuild name plan =>
    unfold Call.run Call.used?
    dsimp only
    generalize ended : c.getOrBuild name (describing plan) = o
    have ways := c.finds name plan
    rw [ended] at ways
    cases ways with
    | hit found => exact .found found
    | failed missing planned =>
      rw [planned]
      exact .failed (find?_eq_none_iff.1 missing)
    | built missing planned =>
      rw [planned]
      exact .built (find?_eq_none_iff.1 missing)
  | contains name => exact .contains
  | clear => exact .cleared

/-! ## Names -/

theorem names_touch (c : WrapperCache) (name : String) (type : WrapperType) :
    (c.touch name type).names = name :: c.names.filter fun n => n != name := by
  simp [names, touch, without, List.filter_map, Function.comp_def]

theorem mem_names_touch (found : c.find? name = some type) {n : String} :
    n ∈ (c.touch name type).names ↔ n ∈ c.names := by
  have resident := mem_names_of_find? found
  rw [names_touch, List.mem_cons, List.mem_filter, bne_iff_ne]
  constructor
  · intro either
    rcases either with rfl | ⟨there, -⟩
    · exact resident
    · exact there
  · intro there
    by_cases same : n = name
    · exact .inl same
    · exact .inr ⟨there, same⟩

theorem names_add (c : WrapperCache) (name : String) (type : WrapperType) :
    (c.add name type).names =
      name :: if c.size < c.capacity then c.names else c.names.dropLast := by
  unfold add names spared
  split
  · rfl
  · rw [List.map_cons, List.map_dropLast]

theorem mem_of_mem_names_add {n : String} (there : n ∈ (c.add name type).names) :
    n = name ∨ n ∈ c.names := by
  rcases List.mem_cons.1 there with here | kept
  · exact .inl here
  · exact .inr ((spared_sublist.map Prod.fst).subset kept)

/-- Only a look-up that builds brings a name in. -/
theorem Change.enters {call : Call} {used : Option String} {c' : WrapperCache}
    (change : Change c call used c') {n : String} (missing : n ∉ c.names) (there : n ∈ c'.names) :
    ∃ content, call = .getOrBuild n (.ok content) := by
  cases change with
  | missed | failed | contains => exact absurd there missing
  | got found | found found => exact absurd ((mem_names_touch found).1 there) missing
  | @built name content =>
    rcases mem_of_mem_names_add there with rfl | old
    · exact ⟨content, rfl⟩
    · exact absurd old missing
  | cleared => cases there

/-! ## The same wrapper type for as long as the name is resident -/

theorem find?_touch (found : c.find? name = some type) (key : String) :
    (c.touch name type).find? key = c.find? key := by
  have front : (c.touch name type).find? key =
      if key = name then some type else lookupEntry key (c.without name) := lookupEntry_cons
  rw [front]
  split
  · next same => rw [same, found]
  · next other => exact lookupEntry_filter other

/-- What is spared is what it was. -/
theorem lookupEntry_spared (kept : name ∈ c.spared.map Prod.fst) :
    lookupEntry name c.spared = c.find? name := by
  by_cases fits : c.size < c.capacity
  · have room : c.spared = c.entries := if_pos fits
    rw [room, find?]
  · have room : c.spared = c.entries.dropLast := if_neg fits
    rw [room] at kept ⊢
    have nonempty : c.entries ≠ [] := by
      intro empty
      rw [empty] at kept
      cases kept
    rw [find?, ← lookupEntry_append kept, List.dropLast_append_getLast nonempty]

theorem Change.find?_eq {call : Call} {used : Option String} {c' : WrapperCache}
    (change : Change c call used c') (before : name ∈ c.names) (after : name ∈ c'.names) : c'.find? name = c.find? name := by
  cases change with
  | missed | failed | contains => rfl
  | got found | found found => exact find?_touch found name
  | @built key content missing =>
    have other : name ≠ key := fun same => missing (same ▸ before)
    have front : (c.add key (c.described content)).find? name =
        if name = key then some (c.described content) else lookupEntry name c.spared :=
      lookupEntry_cons
    rw [front, if_neg other]
    exact lookupEntry_spared ((List.mem_cons.1 after).resolve_left other)
  | cleared => cases after

/-- The name is resident now and after each of the calls. -/
def StaysResident (c : WrapperCache) (name : String) : List Call → Prop
  | [] => name ∈ c.names
  | call :: calls => name ∈ c.names ∧ StaysResident (call.run c) name calls

theorem StaysResident.mem_names {calls : List Call} (stays : c.StaysResident name calls) :
    name ∈ c.names := by
  cases calls with
  | nil => exact stays
  | cons call calls => exact stays.1

theorem StaysResident.find?_eq {calls : List Call} (stays : c.StaysResident name calls) :
    (c.after calls).find? name = c.find? name := by
  induction calls generalizing c with
  | nil => rfl
  | cons call calls ih =>
    have step := (c.change call).find?_eq stays.1 stays.2.mem_names
    exact (ih stays.2).trans step

/-- The call looks the name up, builds it if need be, and succeeds. -/
def Call.Yields (c : WrapperCache) (name : String) (type : WrapperType) (call : Call) : Prop :=
  ∃ plan, call = .getOrBuild name plan ∧ (c.getOrBuild name (describing plan)).result = .ok type

/-- None of the calls yields a wrapper type of the name. -/
def Unasked (c : WrapperCache) (name : String) : List Call → Prop
  | [] => True
  | call :: calls => (∀ type, ¬ call.Yields c name type) ∧ Unasked (call.run c) name calls

theorem yields_of_missing {content : String × String} (missing : name ∉ c.names) :
    (Call.getOrBuild name (.ok content)).Yields c name (c.described content) := by
  refine ⟨.ok content, rfl, ?_⟩
  have ways := c.finds name (.ok content)
  generalize c.getOrBuild name (describing (.ok content)) = o at ways ⊢
  cases ways with
  | hit found => exact absurd (mem_names_of_find? found) missing
  | failed _ planned => cases planned
  | built _ planned =>
    cases planned
    rfl

/-- A name that is gone does not come back by itself. -/
theorem Unasked.not_mem {calls : List Call} (unasked : c.Unasked name calls)
    (gone : ¬ c.StaysResident name calls) : name ∉ (c.after calls).names := by
  induction calls generalizing c with
  | nil => exact gone
  | cons call calls ih =>
    refine ih unasked.2 fun stays => ?_
    by_cases here : name ∈ c.names
    · exact gone ⟨here, stays⟩
    · obtain ⟨content, rfl⟩ := (c.change call).enters here stays.mem_names
      exact unasked.1 _ (yields_of_missing here)

/-! ## Serial numbers -/

/-- Each wrapper type that is kept was built before. -/
def Numbered (c : WrapperCache) : Prop := ∀ entry ∈ c.entries, entry.2.serial < c.builds

theorem Numbered.of_find? (numbered : c.Numbered) (found : c.find? name = some type) :
    type.serial < c.builds :=
  numbered _ (mem_of_lookupEntry found)

theorem Numbered.run (numbered : c.Numbered) (call : Call) :
    (call.run c).Numbered ∧ c.builds ≤ (call.run c).builds := by
  have ways := c.change call
  generalize call.used? c = used, call.run c = c' at ways ⊢
  cases ways with
  | missed | failed | contains => exact ⟨numbered, Nat.le_refl _⟩
  | got found | found found =>
    refine ⟨fun entry member => ?_, Nat.le_refl _⟩
    rcases List.mem_cons.1 member with rfl | kept
    · exact numbered.of_find? found
    · exact numbered entry (List.mem_filter.1 kept).1
  | built =>
    refine ⟨fun entry member => ?_, Nat.le_succ _⟩
    rcases List.mem_cons.1 member with rfl | kept
    · exact Nat.lt_succ_self _
    · exact Nat.lt_succ_of_lt (numbered entry (spared_sublist.subset kept))
  | cleared =>
    refine ⟨fun entry member => ?_, Nat.le_refl _⟩
    cases member

theorem Numbered.after (numbered : c.Numbered) (calls : List Call) :
    (c.after calls).Numbered ∧ c.builds ≤ (c.after calls).builds := by
  induction calls generalizing c with
  | nil => exact ⟨numbered, Nat.le_refl _⟩
  | cons call calls ih =>
    obtain ⟨next, grown⟩ := numbered.run call
    obtain ⟨last, grown'⟩ := ih next
    exact ⟨last, Nat.le_trans grown grown'⟩

/-- What a look-up yields is then there, and was built by then. -/
theorem Call.Yields.find?_eq {call : Call} (yields : call.Yields c name type) :
    (call.run c).find? name = some type := by
  obtain ⟨plan, rfl, result⟩ := yields
  have ways := c.finds name plan
  unfold Call.run
  dsimp only
  generalize c.getOrBuild name (describing plan) = o at ways result ⊢
  cases ways with
  | hit found =>
    cases result
    rw [find?_touch found, found]
  | failed => cases result
  | built =>
    cases result
    exact lookupEntry_cons.trans (if_pos rfl)

end WrapperCache

end ObjectGraph
