/-!
# Tables and their items

The content of a TOML document.  A table remembers how it came about, since that decides whether
it may still be extended: by a header, by a dotted key, or written in line.

* `Table.updateAt?`: changes the table at the end of a path, creating the tables on the way.
-/

namespace ObjectGraph.Toml

/-- How a table came about. -/
structure Role where
  /-- Written between braces, as a value. -/
  inline : Bool := false
  /-- Only named on the way to another table. -/
  implicit : Bool := false
  /-- Created by a dotted key. -/
  dotted : Bool := false
  deriving DecidableEq, Repr

/-- A value, a table, or an array of tables. -/
inductive Item where
  | integer (i : Int64)
  | text (s : String)
  | boolean (b : Bool)
  /-- A number with a fraction or an exponent, or a special one. -/
  | float
  /-- A date, a time, or both. -/
  | moment
  | array (items : List Item)
  | table (role : Role) (entries : List (String × Item))
  /-- Tables under repeated headers; each item is a table. -/
  | tables (items : List Item)

abbrev Entries := List (String × Item)

namespace Entries

def find? (entries : Entries) (key : String) : Option Item :=
  (List.find? (fun entry : String × Item => entry.1 == key) entries).map Prod.snd

/-- The entries with the item under a key replaced, or added at the end. -/
def put (entries : Entries) (key : String) (item : Item) : Entries :=
  match entries with
  | [] => [(key, item)]
  | (k, held) :: rest => if k = key then (k, item) :: rest else (k, held) :: put rest key item

end Entries

/-- A table: its role and its entries. -/
structure Table where
  role : Role := {}
  entries : Entries := []

namespace Table

def toItem (t : Table) : Item := .table t.role t.entries

/-- Changes the table at the end of a path.  Missing tables on the way are created.  A dotted key
passes only through tables that no header and no braces have defined; a path through repeated
headers goes to the last table. -/
def updateAt? (dotted : Bool) (change : Table → Option Table) : List String → Table → Option Table
  | [], t => change t
  | key :: path, t =>
    match t.entries.find? key with
    | none => do
      let new ← updateAt? dotted change path ⟨⟨t.role.inline, true, dotted⟩, []⟩
      return { t with entries := t.entries.put key new.toItem }
    | some (.table role entries) =>
      if role.inline != t.role.inline || (dotted && !role.implicit) then none
      else do
        let new ← updateAt? dotted change path ⟨role, entries⟩
        return { t with entries := t.entries.put key new.toItem }
    | some (.tables items) =>
      match items.getLast? with
      | some (.table role entries) => do
        let new ← updateAt? dotted change path ⟨role, entries⟩
        return { t with entries := t.entries.put key (.tables (items.dropLast ++ [new.toItem])) }
      | _ => none
    | some _ => none

/-- Adds an entry under a dotted key, the last part of which is `key`.  The key must be new, and a
table that a header has created is not extended by dotted keys. -/
def addEntry? (path : List String) (key : String) (item : Item) (t : Table) : Option Table :=
  t.updateAt? true (fun last =>
    if last.role.dotted == path.isEmpty || (last.entries.find? key).isSome then none
    else some { last with entries := last.entries.put key item }) path

/-- Opens the table of a header.  A table that was only named on the way may be defined once. -/
def openTable? (path : List String) (key : String) (t : Table) : Option Table :=
  t.updateAt? false (fun parent =>
    match parent.entries.find? key with
    | none => some { parent with entries := parent.entries.put key (.table {} []) }
    | some (.table role entries) =>
      if role.implicit && !role.dotted && !role.inline then
        some { parent with entries := parent.entries.put key (.table {} entries) }
      else none
    | some _ => none) path

def openRepeated? (path : List String) (key : String) (t : Table) : Option Table :=
  t.updateAt? false (fun parent =>
    match parent.entries.find? key with
    | none => some { parent with entries := parent.entries.put key (.tables [.table {} []]) }
    | some (.tables items) =>
      some { parent with entries := parent.entries.put key (.tables (items ++ [.table {} []])) }
    | some _ => none) path

end Table

end ObjectGraph.Toml
