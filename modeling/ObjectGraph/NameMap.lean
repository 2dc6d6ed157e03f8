/-!
# Tables by name

A table keeps its entries in ascending order of their names, each name once.  `find?_insert` says
what a look-up gives after an insertion.
-/

namespace ObjectGraph

/-- Entries in ascending order of their names, with the entry of one name put in place. -/
def insertEntry {α : Type} (name : String) (value : α) : List (String × α) → List (String × α)
  | [] => [(name, value)]
  | (key, held) :: rest =>
    match compare name key with
    | .lt => (name, value) :: (key, held) :: rest
    | .eq => (name, value) :: rest
    | .gt => (key, held) :: insertEntry name value rest

def lookupEntry {α : Type} (name : String) : List (String × α) → Option α
  | [] => none
  | (key, held) :: rest => if name = key then some held else lookupEntry name rest

/-- A table by name. -/
structure NameMap (α : Type) where
  entries : List (String × α) := []

namespace NameMap

variable {α : Type}

def empty : NameMap α := ⟨[]⟩

def size (m : NameMap α) : Nat := m.entries.length

def names (m : NameMap α) : List String := m.entries.map Prod.fst

def values (m : NameMap α) : List α := m.entries.map Prod.snd

def find? (m : NameMap α) (name : String) : Option α := lookupEntry name m.entries

/-- The table with the value under a name put in place. -/
def insert (m : NameMap α) (name : String) (value : α) : NameMap α :=
  ⟨insertEntry name value m.entries⟩

theorem lookupEntry_insertEntry (name key : String) (value : α) (entries : List (String × α)) :
    lookupEntry key (insertEntry name value entries) =
      if key = name then some value else lookupEntry key entries := by
  induction entries with
  | nil => by_cases h : key = name <;> simp [insertEntry, lookupEntry, h]
  | cons entry rest ih =>
    obtain ⟨k, held⟩ := entry
    unfold insertEntry
    split
    · simp [lookupEntry]
    · next he =>
      obtain rfl : name = k := Std.LawfulEqOrd.eq_of_compare he
      by_cases h : key = name <;> simp [lookupEntry, h]
    · next he =>
      have hk : k ≠ name := fun hk => by simp [hk] at he
      by_cases h : key = k <;> simp [lookupEntry, h, hk, ih]

/-- A look-up finds what was put under the name last. -/
theorem find?_insert (m : NameMap α) (name key : String) (value : α) :
    (m.insert name value).find? key = if key = name then some value else m.find? key :=
  lookupEntry_insertEntry name key value m.entries

end NameMap

end ObjectGraph
