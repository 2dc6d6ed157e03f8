import ObjectGraph.Number.Read
import ObjectGraph.Toml.Item

/-!
# Texts, numbers and times of TOML

Readers for the scalar values at the front of a text.  Each gives the value and the rest of the
text, or nothing if no such value stands there.
-/

namespace ObjectGraph.Toml

open Text (isDigit digitsValue hexValue?)

def isBlank (c : Char) : Bool := c = ' ' || c = '\t'

def skipBlanks (cs : List Char) : List Char := cs.dropWhile isBlank

def isWide (c : Char) : Bool := 0x80 ≤ c.toNat

def isCommentChar (c : Char) : Bool := c = '\t' || (' ' ≤ c && c ≤ '~') || isWide c

def newline? : List Char → Option (List Char)
  | '\n' :: rest => some rest
  | '\r' :: '\n' :: rest => some rest
  | _ => none

/-- The rest after blanks, a comment and the end of the line or of the text. -/
def lineEnd? (cs : List Char) : Option (List Char) :=
  let cs := skipBlanks cs
  let cs := match cs with
    | '#' :: rest => rest.dropWhile isCommentChar
    | cs => cs
  if cs.isEmpty then some [] else newline? cs

/-! ## Texts -/

/-- The character with a code point, if there is one. -/
def charOf? (n : Nat) : Option Char := if n.isValidChar then some (Char.ofNat n) else none

/-- The number that exactly `count` hexadecimal digits stand for. -/
def hexNumber? : Nat → Nat → List Char → Option (Nat × List Char)
  | 0, acc, cs => some (acc, cs)
  | count + 1, acc, c :: cs => do
    let d ← hexValue? c
    hexNumber? count (acc * 16 + d) cs
  | _ + 1, _, [] => none

/-- The character of an escape; the backslash has been read. -/
def escape? : List Char → Option (Char × List Char)
  | [] => none
  | c :: cs =>
    if c = 'b' then some ('\x08', cs)
    else if c = 't' then some ('\t', cs)
    else if c = 'n' then some ('\n', cs)
    else if c = 'f' then some ('\x0c', cs)
    else if c = 'r' then some ('\r', cs)
    else if c = '"' then some ('"', cs)
    else if c = '\\' then some ('\\', cs)
    else if c = 'u' then do
      let (n, cs) ← hexNumber? 4 0 cs
      (charOf? n).map (·, cs)
    else if c = 'U' then do
      let (n, cs) ← hexNumber? 8 0 cs
      (charOf? n).map (·, cs)
    else none

/-- A character that may stand in a text between double quotes as it is. -/
def isBasicChar (c : Char) : Bool :=
  c = '\t' || (' ' ≤ c && c ≤ '~' && c ≠ '"' && c ≠ '\\') || isWide c

/-- A character that may stand in a text between single quotes. -/
def isLiteralChar (c : Char) : Bool :=
  c = '\t' || (' ' ≤ c && c ≤ '~' && c ≠ '\'') || isWide c

/-- A text up to its closing double quote; every step consumes a character. -/
def basicText? : Nat → List Char → Option (List Char × List Char)
  | 0, _ => none
  | _ + 1, [] => none
  | fuel + 1, c :: cs =>
    if c = '"' then some ([], cs)
    else if c = '\\' then do
      let (d, cs) ← escape? cs
      let (text, cs) ← basicText? fuel cs
      return (d :: text, cs)
    else if isBasicChar c then do
      let (text, cs) ← basicText? fuel cs
      return (c :: text, cs)
    else none

def literalText? (cs : List Char) : Option (List Char × List Char) :=
  match cs.dropWhile isLiteralChar with
  | '\'' :: rest => some (cs.takeWhile isLiteralChar, rest)
  | _ => none

/-- The rest after blanks and line ends, which have to be whole. -/
def skipLines : Nat → List Char → List Char
  | 0, cs => cs
  | fuel + 1, cs =>
    match newline? cs with
    | some rest => skipLines fuel rest
    | none =>
      match cs with
      | c :: rest => if isBlank c then skipLines fuel rest else cs
      | [] => []

/-- A text of several lines up to its closing quotes.  Up to two quotes more may stand before the
three that close it.  With `escapes` a backslash escapes, and at the end of a line joins it to the
next text. -/
def linesText? (quote : Char) (escapes : Bool) : Nat → List Char → Option (List Char × List Char)
  | 0, _ => none
  | _ + 1, [] => none
  | fuel + 1, c :: cs =>
    if c = quote then
      let quotes := ((c :: cs).takeWhile (· = quote)).length
      let rest := (c :: cs).drop (min quotes 5)
      if 3 ≤ quotes then some (List.replicate (min quotes 5 - 3) quote, rest)
      else (linesText? quote escapes fuel rest).map fun (text, cs) =>
        (List.replicate quotes quote ++ text, cs)
    else match newline? (c :: cs) with
      | some rest => (linesText? quote escapes fuel rest).map fun (text, cs) => ('\n' :: text, cs)
      | none =>
        if escapes && c = '\\' then
          match newline? (skipBlanks cs) with
          | some rest => linesText? quote escapes fuel (skipLines rest.length rest)
          | none => do
            let (d, cs) ← escape? cs
            let (text, cs) ← linesText? quote escapes fuel cs
            return (d :: text, cs)
        else if isBasicChar c || (!escapes && (c = '"' || c = '\\')) then
          (linesText? quote escapes fuel cs).map fun (text, cs) => (c :: text, cs)
        else none

def dropNewline (cs : List Char) : List Char := (newline? cs).getD cs

def text? (cs : List Char) : Option (String × List Char) :=
  let read := match cs with
    | '"' :: '"' :: '"' :: rest => linesText? '"' true (rest.length + 1) (dropNewline rest)
    | '"' :: rest => basicText? (rest.length + 1) rest
    | '\'' :: '\'' :: '\'' :: rest => linesText? '\'' false (rest.length + 1) (dropNewline rest)
    | '\'' :: rest => literalText? rest
    | _ => none
  read.map fun (text, rest) => (String.ofList text, rest)

/-! ## Numbers -/

/-- Digits of a kind with single underscores between them; the underscores are dropped. -/
def digitRun? (isKind : Char → Bool) : List Char → Option (List Char × List Char)
  | [] => none
  | c :: cs =>
    if isKind c then
      match cs with
      | '_' :: d :: rest =>
        if isKind d then (digitRun? isKind (d :: rest)).map fun (ds, rest) => (c :: ds, rest)
        else none
      | '_' :: [] => none
      | d :: rest =>
        if isKind d then (digitRun? isKind (d :: rest)).map fun (ds, rest) => (c :: ds, rest)
        else some ([c], d :: rest)
      | [] => some ([c], [])
    else none

/-- The sign at the front, if there is one; true for minus. -/
def sign : List Char → Bool × List Char
  | '+' :: cs => (false, cs)
  | '-' :: cs => (true, cs)
  | cs => (false, cs)

/-- Decimal digits without a zero in front of others. -/
def decimalRun? : List Char → Option (List Char × List Char)
  | '0' :: cs => some (['0'], cs)
  | cs => digitRun? isDigit cs

/-- An integer of 64 bits, if the digits stand for one. -/
def integerOf? (negative : Bool) (n : Nat) : Option Item :=
  if negative then
    if n ≤ Nat.pow 2 63 then some (.integer (Int64.ofInt (-(n : Int)))) else none
  else if n < Nat.pow 2 63 then some (.integer (Int64.ofInt n)) else none

/-- An integer in one of the bases 16, 8 and 2, after its mark. -/
def based? (base : Nat) (cs : List Char) : Option (Item × List Char) := do
  let isKind (c : Char) : Bool := (hexValue? c).any (· < base)
  let (digits, rest) ← digitRun? isKind cs
  let n := digits.foldl (fun n c => n * base + (hexValue? c).getD 0) 0
  let item ← integerOf? false n
  return (item, rest)

def integer? (cs : List Char) : Option (Item × List Char) :=
  match cs with
  | '0' :: 'x' :: rest => based? 16 rest
  | '0' :: 'o' :: rest => based? 8 rest
  | '0' :: 'b' :: rest => based? 2 rest
  | _ => do
    let (negative, rest) := sign cs
    let (digits, rest) ← decimalRun? rest
    let item ← integerOf? negative (digitsValue 0 digits)
    return (item, rest)

def exponent? : List Char → Option (Int × List Char)
  | c :: cs =>
    if c = 'e' ∨ c = 'E' then do
      let (negative, rest) := sign cs
      let (digits, rest) ← digitRun? isDigit rest
      let n : Int := (digitsValue 0 digits : Int)
      return (if negative then -n else n, rest)
    else none
  | [] => none

/-- Whether a finite decimal is too large for a positive 64-bit number. -/
def isTooLarge (negative : Bool) (coefficient : Nat) (exponent : Int) : Bool :=
  !negative && !(Binary.ofDecimal (f := .double) false coefficient exponent).isFinite

def fractional? (cs : List Char) : Option (Item × List Char) := do
  let (negative, rest) := sign cs
  let (whole, rest) ← decimalRun? rest
  let (places, e, rest) ← match rest with
    | '.' :: rest => do
      let (places, rest) ← digitRun? isDigit rest
      match rest with
      | c :: _ =>
        if c = 'e' ∨ c = 'E' then (exponent? rest).map fun (e, rest) => (places, e, rest)
        else some (places, 0, rest)
      | [] => some (places, 0, [])
    | rest => (exponent? rest).map fun (e, rest) => ([], e, rest)
  let n := digitsValue (digitsValue 0 whole) places
  if isTooLarge negative n (e - (places.length : Int)) then none else some (.float, rest)

/-- The name of infinity or of no number, with an optional sign. -/
def special? (cs : List Char) : Option (Item × List Char) :=
  match (sign cs).2 with
  | 'i' :: 'n' :: 'f' :: rest | 'n' :: 'a' :: 'n' :: rest => some (.float, rest)
  | _ => none

/-! ## Dates and times -/

/-- The number that exactly `count` decimal digits stand for. -/
def fixedDigits? (count : Nat) (cs : List Char) : Option (Nat × List Char) :=
  let digits := cs.take count
  if digits.length = count ∧ digits.all isDigit then some (digitsValue 0 digits, cs.drop count)
  else none

def twoDigits? (low high : Nat) (cs : List Char) : Option (Nat × List Char) := do
  let (n, rest) ← fixedDigits? 2 cs
  if low ≤ n ∧ n ≤ high then some (n, rest) else none

def after? (c : Char) : List Char → Option (List Char)
  | d :: cs => if c = d then some cs else none
  | [] => none

def daysIn (year month : Nat) : Nat :=
  if month = 2 then
    if year % 4 = 0 ∧ (year % 100 ≠ 0 ∨ year % 400 = 0) then 29 else 28
  else if month = 4 ∨ month = 6 ∨ month = 9 ∨ month = 11 then 30
  else 31

def date? (cs : List Char) : Option (List Char) := do
  let (year, cs) ← fixedDigits? 4 cs
  let cs ← after? '-' cs
  let (month, cs) ← twoDigits? 1 12 cs
  let cs ← after? '-' cs
  let (day, cs) ← twoDigits? 1 31 cs
  if day ≤ daysIn year month then some cs else none

def time? (cs : List Char) : Option (List Char) := do
  let (_, cs) ← twoDigits? 0 23 cs
  let cs ← after? ':' cs
  let (_, cs) ← twoDigits? 0 59 cs
  let cs ← after? ':' cs
  let (_, cs) ← twoDigits? 0 60 cs
  match cs with
  | '.' :: c :: rest => if isDigit c then some (rest.dropWhile isDigit) else none
  | '.' :: [] => none
  | cs => some cs

/-- The rest after the distance from universal time, if there is one. -/
def offset? : List Char → Option (List Char)
  | [] => some []
  | c :: cs =>
    if c = 'Z' ∨ c = 'z' then some cs
    else if c = '+' ∨ c = '-' then do
      let (_, cs) ← twoDigits? 0 23 cs
      let cs ← after? ':' cs
      let (_, cs) ← twoDigits? 0 59 cs
      return cs
    else some (c :: cs)

def moment? (cs : List Char) : Option (Item × List Char) :=
  match date? cs with
  | some rest =>
    match rest with
    | c :: more =>
      if c = 'T' ∨ c = 't' ∨ c = ' ' then
        match time? more with
        | some more => (offset? more).map (.moment, ·)
        | none => some (.moment, rest)
      else some (.moment, rest)
    | [] => some (.moment, [])
  | none => (time? cs).map (.moment, ·)

def numeric? (cs : List Char) : Option (Item × List Char) :=
  (moment? cs).or ((fractional? cs).or ((special? cs).or (integer? cs)))

def word? : List Char → List Char → Option (List Char)
  | [], cs => some cs
  | w :: ws, c :: cs => if w = c then word? ws cs else none
  | _ :: _, [] => none

end ObjectGraph.Toml
