import MapAudit.Json.Basic

/-! # Writing JSON

    Two layouts are written: `compact`, on one line without spaces, and
    `pretty`, with one item per line and two spaces per level.

    In a string only the quote, the backslash and the characters below U+0020
    are escaped. Five of these have short escapes and the rest are written with
    four hexadecimal digits.
-/

namespace MapAudit.Json

/-- The digit of a number below sixteen. -/
def hexDigit (n : Nat) : Char :=
  Nat.digitChar n

/-- How one character is written in a string. -/
def escapedChar (c : Char) : List Char :=
  if c = '"' then ['\\', '"']
  else if c = '\\' then ['\\', '\\']
  else if c = '\x08' then ['\\', 'b']
  else if c = '\x0c' then ['\\', 'f']
  else if c = '\n' then ['\\', 'n']
  else if c = '\r' then ['\\', 'r']
  else if c = '\t' then ['\\', 't']
  else if c.toNat < 0x20 then
    ['\\', 'u', '0', '0', hexDigit (c.toNat / 16), hexDigit (c.toNat % 16)]
  else [c]

/-- A string between quotes. -/
def stringText (s : String) : List Char :=
  '"' :: s.toList.flatMap escapedChar ++ ['"']

/-- A number as its literal says. -/
def Number.text (n : Number) : List Char :=
  (if n.negative then ['-'] else [])
    ++ n.whole.map hexDigit
    ++ (if n.fraction.isEmpty then [] else '.' :: n.fraction.map hexDigit)
    ++ (match n.exponent with
      | none => []
      | some (.ofNat e) => 'e' :: Nat.toDigits 10 e
      | some (.negSucc e) => 'e' :: '-' :: Nat.toDigits 10 (e + 1))

/-- A value without parts. Values with parts are written by their layout, and
    what stands for no value is written as `null`. -/
def atomText : Json → List Char
  | .unreadable => ['n', 'u', 'l', 'l']
  | .null => ['n', 'u', 'l', 'l']
  | .bool true => ['t', 'r', 'u', 'e']
  | .bool false => ['f', 'a', 'l', 's', 'e']
  | .number n => n.text
  | .string s => stringText s
  | .array _ => []
  | .object _ => []

mutual

/-- A value on one line without spaces. -/
def compactText : Json → List Char
  | .array items => '[' :: compactItems items ++ [']']
  | .object members => '\x7b' :: compactMembers members ++ ['\x7d']
  | v => atomText v

/-- The items of an array, with commas between them. -/
def compactItems : List Json → List Char
  | [] => []
  | [v] => compactText v
  | v :: w :: rest => compactText v ++ ',' :: compactItems (w :: rest)

/-- The members of an object, with commas between them. -/
def compactMembers : List (String × Json) → List Char
  | [] => []
  | [m] => compactMember m
  | m :: n :: rest => compactMember m ++ ',' :: compactMembers (n :: rest)

/-- A key with its value. -/
def compactMember : String × Json → List Char
  | (k, v) => stringText k ++ ':' :: compactText v

end

/-- A line break followed by the indentation of a level. -/
def newLine (level : Nat) : List Char :=
  '\n' :: List.replicate (2 * level) ' '

mutual

/-- A value with one item per line; `level` is the nesting of the line that
    the value stands on. Empty arrays and objects stay on that line. -/
def prettyText (level : Nat) : Json → List Char
  | .array [] => ['[', ']']
  | .object [] => ['\x7b', '\x7d']
  | .array (v :: rest) => '[' :: prettyItems (level + 1) (v :: rest) ++ newLine level ++ [']']
  | .object (m :: rest) =>
    '\x7b' :: prettyMembers (level + 1) (m :: rest) ++ newLine level ++ ['\x7d']
  | v => atomText v

/-- The items of an array, each on a line of its own. -/
def prettyItems (level : Nat) : List Json → List Char
  | [] => []
  | [v] => newLine level ++ prettyText level v
  | v :: w :: rest =>
    newLine level ++ prettyText level v ++ ',' :: prettyItems level (w :: rest)

/-- The members of an object, each on a line of its own. -/
def prettyMembers (level : Nat) : List (String × Json) → List Char
  | [] => []
  | [m] => newLine level ++ prettyMember level m
  | m :: n :: rest =>
    newLine level ++ prettyMember level m ++ ',' :: prettyMembers level (n :: rest)

/-- A key with its value. -/
def prettyMember (level : Nat) : String × Json → List Char
  | (k, v) => stringText k ++ ':' :: ' ' :: prettyText level v

end

/-- The text of a value on one line. -/
def compact (v : Json) : String :=
  String.ofList (compactText v)

/-- The text of a value over several lines. -/
def pretty (v : Json) : String :=
  String.ofList (prettyText 0 v)

end MapAudit.Json
