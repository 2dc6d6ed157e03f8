import ObjectGraph.Toml.Scalar

/-!
# TOML documents

`Document.read?` reads a whole document into its root table.  A document is a sequence of lines,
each empty, an entry for the table that the last header opened, or a header.
-/

namespace ObjectGraph.Toml

open Text (isDigit)

/-! ## Keys -/

def isBareChar (c : Char) : Bool :=
  isDigit c || ('a' ≤ c && c ≤ 'z') || ('A' ≤ c && c ≤ 'Z') || c = '-' || c = '_'

def keyPart? (cs : List Char) : Option (String × List Char) :=
  match cs with
  | '"' :: rest => (basicText? (rest.length + 1) rest).map fun (t, rest) => (String.ofList t, rest)
  | '\'' :: rest => (literalText? rest).map fun (t, rest) => (String.ofList t, rest)
  | _ =>
    let bare := cs.takeWhile isBareChar
    if bare.isEmpty then none else some (String.ofList bare, cs.dropWhile isBareChar)

/-- How many parts a key has less than, and how deeply values nest less than. -/
def depthLimit : Nat := 80

/-- The parts of a key, with points between them and blanks around each. -/
def keyParts? : Nat → List Char → Option (List String × List Char)
  | 0, _ => none
  | fuel + 1, cs => do
    let (part, cs) ← keyPart? (skipBlanks cs)
    match skipBlanks cs with
    | '.' :: rest => do
      let (parts, rest) ← keyParts? fuel rest
      return (part :: parts, rest)
    | rest => return ([part], rest)

/-- A key: the path to a table, and the name in it. -/
def key? (cs : List Char) : Option ((List String × String) × List Char) := do
  let (parts, rest) ← keyParts? depthLimit cs
  let name ← parts.getLast?
  if parts.length < depthLimit then some ((parts.dropLast, name), rest) else none

/-! ## Values -/

/-- The text without blanks, line ends and comments at its front. -/
def skipFiller : Nat → List Char → List Char
  | 0, cs => cs
  | fuel + 1, cs =>
    match cs with
    | [] => []
    | c :: rest =>
      if isBlank c then skipFiller fuel rest
      else if c = '#' then skipFiller fuel (rest.dropWhile isCommentChar)
      else match newline? cs with
        | some rest => skipFiller fuel rest
        | none => cs

/-- The same, with as much fuel as the text can need. -/
def skipAllFiller (cs : List Char) : List Char := skipFiller cs.length cs

mutual

/-- The value at the front of the text, inside `depth` arrays and tables in line. -/
def value? (fuel : Nat) (depth : Nat) (cs : List Char) : Option (Item × List Char) :=
  match fuel, cs with
  | 0, _ => none
  | _ + 1, [] => none
  | fuel + 1, c :: rest =>
    if c = '"' ∨ c = '\'' then (text? cs).map fun (s, rest) => (.text s, rest)
    else if c = '[' then
      if depth + 1 < depthLimit then
        match skipAllFiller rest with
        | ']' :: rest => some (.array [], rest)
        | rest => (items? fuel (depth + 1) rest).map fun (items, rest) => (.array items, rest)
      else none
    else if c = '\x7b' then
      if depth + 1 < depthLimit then
        match skipBlanks rest with
        | '\x7d' :: rest => some (.table ⟨true, false, false⟩ [], rest)
        | rest => (pairs? fuel (depth + 1) ⟨⟨true, false, false⟩, []⟩ rest).map
          fun (table, rest) => (table.toItem, rest)
      else none
    else if c = 't' then (word? ['r', 'u', 'e'] rest).map (.boolean true, ·)
    else if c = 'f' then (word? ['a', 'l', 's', 'e'] rest).map (.boolean false, ·)
    else numeric? cs

/-- The items of an array, at least one, and its closing bracket; a comma may follow the last. -/
def items? (fuel : Nat) (depth : Nat) (cs : List Char) : Option (List Item × List Char) :=
  match fuel with
  | 0 => none
  | fuel + 1 => do
    let (item, rest) ← value? fuel depth (skipAllFiller cs)
    match skipAllFiller rest with
    | ',' :: rest =>
      match skipAllFiller rest with
      | ']' :: rest => return ([item], rest)
      | rest => do
        let (items, rest) ← items? fuel depth rest
        return (item :: items, rest)
    | ']' :: rest => return ([item], rest)
    | _ => none

/-- The entries of a table in line, at least one, and its closing brace. -/
def pairs? (fuel : Nat) (depth : Nat) (table : Table) (cs : List Char) :
    Option (Table × List Char) :=
  match fuel with
  | 0 => none
  | fuel + 1 => do
    let ((path, name), rest) ← key? cs
    let rest ← after? '=' rest
    let (item, rest) ← value? fuel depth (skipBlanks rest)
    let table ← table.addEntry? path name item
    match skipBlanks rest with
    | ',' :: rest => pairs? fuel depth table rest
    | '\x7d' :: rest => return (table, rest)
    | _ => none

end

/-! ## Documents -/

/-- A document as far as it has been read: its root, and the path of the table that takes
entries. -/
structure Document where
  root : Table := {}
  current : List String := []

namespace Document

/-- Reads an entry for the current table, up to the end of its line. -/
def entry? (d : Document) (cs : List Char) : Option (Document × List Char) := do
  let ((path, name), rest) ← key? cs
  let rest ← after? '=' rest
  let rest := skipBlanks rest
  let (item, rest) ← value? (2 * rest.length + 1) 0 rest
  let rest ← lineEnd? rest
  let root ← d.root.updateAt? false (Table.addEntry? path name item) d.current
  return ({ d with root }, rest)

/-- Reads a header, of a table or of one of several tables, up to the end of its line. -/
def header? (d : Document) (cs : List Char) : Option (Document × List Char) := do
  let (repeated, rest) := match cs with
    | '[' :: '[' :: rest => (true, rest)
    | _ :: rest => (false, rest)
    | [] => (false, [])
  let ((path, name), rest) ← key? rest
  let rest ← after? ']' rest
  let rest ← if repeated then after? ']' rest else some rest
  let rest ← lineEnd? rest
  let root ← if repeated then d.root.openRepeated? path name else d.root.openTable? path name
  return (⟨root, path ++ [name]⟩, rest)

def lines? : Nat → Document → List Char → Option Document
  | 0, _, _ => none
  | fuel + 1, d, cs =>
    match skipBlanks cs with
    | [] => some d
    | c :: rest =>
      if c = '#' ∨ c = '\n' ∨ c = '\r' then
        (lineEnd? (c :: rest)).bind fun rest => lines? fuel d rest
      else
        let read := if c = '[' then d.header? (c :: rest) else d.entry? (c :: rest)
        match read with
        | some (d, rest) => lines? fuel d rest
        | none => none

/-- The root table of a document; a mark of the byte order may stand in front. -/
def read? (source : String) : Option Table :=
  let cs := match source.toList with
    | '\ufeff' :: rest => rest
    | cs => cs
  (lines? (cs.length + 1) {} cs).map Document.root

end Document

end ObjectGraph.Toml
