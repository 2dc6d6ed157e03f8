import ObjectGraph.Text.Printable
import ObjectGraph.Text.Extending

/-!
# Texts

What is read from texts and what is written to them: blanks around a text, digits and the numbers that
they stand for, and the forms in which messages and descriptions show texts, records, lists and tables.

* `Text.trim`: a text without blanks at either end.
* `Text.digitsValue`: the number that a run of digits stands for.
* `Text.quoted`: a text between double quotes, with the usual short escapes, and with the code point of
  every character that is not printable or that combines with the one before.
* `Text.record`: a record with its name and its fields between braces.
-/

namespace ObjectGraph.Text

/-! ## Blanks -/

/-- The Unicode property White_Space: 25 characters. -/
def isBlank (c : Char) : Bool :=
  let n := c.toNat
  (0x09 ≤ n && n ≤ 0x0D) || n = 0x20 || n = 0x85 || n = 0xA0 || n = 0x1680 ||
    (0x2000 ≤ n && n ≤ 0x200A) || n = 0x2028 || n = 0x2029 || n = 0x202F || n = 0x205F ||
    n = 0x3000

def trimChars (cs : List Char) : List Char :=
  ((cs.dropWhile isBlank).reverse.dropWhile isBlank).reverse

def trim (s : String) : String := String.ofList (trimChars s.toList)

/-! ## Digits -/

/-- Whether the character is one of the ten decimal digits. -/
def isDigit (c : Char) : Bool := '0' ≤ c && c ≤ '9'

def digitValue? (c : Char) : Option Nat :=
  if isDigit c then some (c.toNat - '0'.toNat) else none

/-- The number that a run of digits stands for, continuing from `acc`. -/
def digitsValue (acc : Nat) (cs : List Char) : Nat :=
  cs.foldl (fun n c => n * 10 + (c.toNat - '0'.toNat)) acc

/-- The value of a hexadecimal digit of either case. -/
def hexValue? (c : Char) : Option Nat :=
  if isDigit c then some (c.toNat - '0'.toNat)
  else if 'a' ≤ c ∧ c ≤ 'f' then some (c.toNat - 'a'.toNat + 10)
  else if 'A' ≤ c ∧ c ≤ 'F' then some (c.toNat - 'A'.toNat + 10)
  else none

/-! ## Quoted texts -/

/-- The hexadecimal digits of a number, lower case and without leading zeros. -/
def hexText (n : Nat) : List Char := Nat.toDigits 16 n

def quotedChar (c : Char) : List Char :=
  if c = '\t' then ['\\', 't']
  else if c = '\n' then ['\\', 'n']
  else if c = '\r' then ['\\', 'r']
  else if c = '\x00' then ['\\', '0']
  else if c = '\\' then ['\\', '\\']
  else if c = '"' then ['\\', '"']
  else if ' ' ≤ c ∧ c ≤ '~' then [c]
  else if isPrintable c && !isExtending c then [c]
  else ['\\', 'u', '\x7b'] ++ hexText c.toNat ++ ['\x7d']

def quoted (s : String) : String :=
  String.ofList ('"' :: s.toList.flatMap quotedChar ++ ['"'])

/-! ## Records, lists and tables -/

/-- The texts with a comma and a space between any two. -/
def commaSeparated (parts : List String) : String := String.intercalate ", " parts

/-- A record: its name and its fields, each with its text. -/
def record (name : String) (fields : List (String × String)) : String :=
  name ++ " \x7b " ++ commaSeparated (fields.map fun (field, text) => field ++ ": " ++ text) ++
    " \x7d"

def tagged (name text : String) : String := name ++ "(" ++ text ++ ")"

def listing (parts : List String) : String := "[" ++ commaSeparated parts ++ "]"

def table (entries : List (String × String)) : String :=
  "\x7b" ++ commaSeparated (entries.map fun (key, text) => quoted key ++ ": " ++ text) ++ "\x7d"

def optional (text? : Option String) : String :=
  match text? with
  | some text => tagged "Some" text
  | none => "None"

def truth (b : Bool) : String := if b then "true" else "false"

end ObjectGraph.Text
