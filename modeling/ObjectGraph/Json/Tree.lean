import ObjectGraph.Text

/-!
# JSON texts as trees

`Tree.read` reads a JSON text and keeps what the text says: the digits of a number, the members of
an object in order and with repetitions.  What a number or a repeated member means is decided by
whoever interprets the tree, so a part that nobody looks at need only be well formed.
-/

namespace ObjectGraph.Json

open Text (isDigit hexValue?)

/-- A number as it is written. -/
structure NumberText where
  negative : Bool
  /-- The digits before the point: a single zero, or no zero in front. -/
  whole : List Char
  /-- The digits after the point, if there is one. -/
  places : Option (List Char)
  /-- The sign and the digits of the exponent, if there is one. -/
  power : Option (Bool × List Char)
  deriving DecidableEq, Repr

/-- A JSON text, parsed. -/
inductive Tree where
  | null
  | bool (b : Bool)
  | number (text : NumberText)
  /-- A string; it has no text if an escaped surrogate in it has no partner. -/
  | string (text : Option String)
  | array (items : List Tree)
  /-- Members, each with the text of its name. -/
  | object (members : List (Option String × Tree))

/-! ## Strings -/

/-- A part of a string: a character as it stands or by a short escape, or a 16-bit unit. -/
inductive Piece where
  | char (c : Char)
  | unit (n : Nat)
  deriving DecidableEq, Repr

def hexUnit? (a b c d : Char) : Option Nat := do
  let a ← hexValue? a
  let b ← hexValue? b
  let c ← hexValue? c
  let d ← hexValue? d
  return ((a * 16 + b) * 16 + c) * 16 + d

def shortEscape? (c : Char) : Option Char :=
  if c = '"' then some '"'
  else if c = '\\' then some '\\'
  else if c = '/' then some '/'
  else if c = 'b' then some '\x08'
  else if c = 'f' then some '\x0c'
  else if c = 'n' then some '\n'
  else if c = 'r' then some '\r'
  else if c = 't' then some '\t'
  else none

/-- Reads a string up to its closing quote; the opening one has been read. -/
def readPieces : List Char → Option (List Piece × List Char)
  | [] => none
  | c :: cs =>
    if c = '"' then some ([], cs)
    else if c = '\\' then
      match cs with
      | 'u' :: h₁ :: h₂ :: h₃ :: h₄ :: rest => do
        let n ← hexUnit? h₁ h₂ h₃ h₄
        let (pieces, rest) ← readPieces rest
        return (.unit n :: pieces, rest)
      | e :: rest => do
        let d ← shortEscape? e
        let (pieces, rest) ← readPieces rest
        return (.char d :: pieces, rest)
      | [] => none
    else if c < ' ' then none
    else do
      let (pieces, rest) ← readPieces cs
      return (.char c :: pieces, rest)

/-- The characters of a string; two units of a surrogate pair make one.  Nothing if a surrogate
stands alone. -/
def joinPieces : List Piece → Option (List Char)
  | [] => some []
  | .char c :: rest => (joinPieces rest).map (c :: ·)
  | .unit n :: rest =>
    if 0xD800 ≤ n ∧ n < 0xDC00 then
      match rest with
      | .unit m :: rest =>
        if 0xDC00 ≤ m ∧ m < 0xE000 then
          (joinPieces rest).map (Char.ofNat (0x10000 + (n - 0xD800) * 0x400 + (m - 0xDC00)) :: ·)
        else none
      | _ => none
    else if 0xDC00 ≤ n ∧ n < 0xE000 then none
    else (joinPieces rest).map (Char.ofNat n :: ·)

def textOf? (pieces : List Piece) : Option String := (joinPieces pieces).map String.ofList

/-! ## Numbers -/

/-- The digits at the front, at least one, and the rest. -/
def readDigits? (cs : List Char) : Option (List Char × List Char) :=
  let digits := cs.takeWhile isDigit
  if digits.isEmpty then none else some (digits, cs.dropWhile isDigit)

def readPlaces : List Char → Option (Option (List Char) × List Char)
  | '.' :: cs => (readDigits? cs).map fun (digits, rest) => (some digits, rest)
  | cs => some (none, cs)

def readPower (cs : List Char) : Option (Option (Bool × List Char) × List Char) :=
  match cs with
  | [] => some (none, [])
  | c :: rest =>
    if c = 'e' ∨ c = 'E' then
      let (negative, rest) := match rest with
        | '+' :: r => (false, r)
        | '-' :: r => (true, r)
        | r => (false, r)
      (readDigits? rest).map fun (digits, rest) => (some (negative, digits), rest)
    else some (none, cs)

def readNumber (cs : List Char) : Option (NumberText × List Char) := do
  let (negative, cs) := match cs with
    | '-' :: r => (true, r)
    | r => (false, r)
  let (whole, cs) ← readDigits? cs
  if whole.length ≠ 1 ∧ whole.head? = some '0' then none
  let (places, cs) ← readPlaces cs
  let (power, cs) ← readPower cs
  return (⟨negative, whole, places, power⟩, cs)

/-! ## Values -/

/-- The four characters that may stand between tokens. -/
def isSpace (c : Char) : Bool := c = ' ' || c = '\n' || c = '\t' || c = '\r'

def skipSpaces (cs : List Char) : List Char := cs.dropWhile isSpace

def expect : List Char → List Char → Option (List Char)
  | [], cs => some cs
  | w :: ws, c :: cs => if w = c then expect ws cs else none
  | _ :: _, [] => none

mutual

/-- Reads a value at the front of the text.  Every call consumes a character before the next, so
`fuel` beyond the length of the text is enough. -/
def readTree (fuel : Nat) (cs : List Char) : Option (Tree × List Char) :=
  match fuel with
  | 0 => none
  | fuel + 1 =>
    match skipSpaces cs with
    | [] => none
    | c :: rest =>
      if c = '"' then do
        let (pieces, rest) ← readPieces rest
        return (.string (textOf? pieces), rest)
      else if c = '[' then
        match skipSpaces rest with
        | ']' :: rest => some (.array [], rest)
        | rest => do
          let (items, rest) ← readItems fuel rest
          return (.array items, rest)
      else if c = '\x7b' then
        match skipSpaces rest with
        | '\x7d' :: rest => some (.object [], rest)
        | rest => do
          let (members, rest) ← readMembers fuel rest
          return (.object members, rest)
      else if c = 'n' then (expect ['u', 'l', 'l'] rest).map (.null, ·)
      else if c = 't' then (expect ['r', 'u', 'e'] rest).map (.bool true, ·)
      else if c = 'f' then (expect ['a', 'l', 's', 'e'] rest).map (.bool false, ·)
      else do
        let (text, rest) ← readNumber (c :: rest)
        return (.number text, rest)

/-- Reads the items of an array, at least one, and the closing bracket. -/
def readItems (fuel : Nat) (cs : List Char) : Option (List Tree × List Char) :=
  match fuel with
  | 0 => none
  | fuel + 1 => do
    let (item, rest) ← readTree fuel cs
    match skipSpaces rest with
    | ',' :: rest => do
      let (items, rest) ← readItems fuel rest
      return (item :: items, rest)
    | ']' :: rest => return ([item], rest)
    | _ => none

/-- Reads the members of an object, at least one, and the closing brace. -/
def readMembers (fuel : Nat) (cs : List Char) : Option (List (Option String × Tree) × List Char) :=
  match fuel with
  | 0 => none
  | fuel + 1 =>
    match skipSpaces cs with
    | '"' :: rest => do
      let (pieces, rest) ← readPieces rest
      let name := textOf? pieces
      match skipSpaces rest with
      | ':' :: rest => do
        let (value, rest) ← readTree fuel rest
        match skipSpaces rest with
        | ',' :: rest => do
          let (members, rest) ← readMembers fuel rest
          return ((name, value) :: members, rest)
        | '\x7d' :: rest => return ([(name, value)], rest)
        | _ => none
      | _ => none
    | _ => none

end

/-- Reads a whole JSON text, with nothing but spaces around the value. -/
def Tree.ofChars? (cs : List Char) : Option Tree := do
  let (tree, rest) ← readTree (2 * cs.length + 1) cs
  if (skipSpaces rest).isEmpty then some tree else none

def Tree.read? (text : String) : Option Tree := Tree.ofChars? text.toList

end ObjectGraph.Json
