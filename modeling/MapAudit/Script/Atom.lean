import MapAudit.Script.Raw
import MapAudit.Text.Columns
import MapAudit.Text.Letters

/-! # Tests of one character

    Patterns of all kinds are made of tests of one character. Most test for the
    character itself; brackets hold several characters, spans of them and named
    classes, or all that are not in there. What is outside of ASCII belongs to a
    class only where whole characters are tested and not just bytes.
-/

namespace MapAudit.Script

/-- A kind of characters outside of ASCII. -/
inductive Kind where
  /-- Letters. -/
  | letter
  /-- Capital letters. -/
  | capital
  /-- Small letters. -/
  | small
  /-- What separates words. -/
  | gap
  /-- What is printed and does not separate words. -/
  | shown
  /-- Of that, what is no letter. -/
  | sign
  /-- What controls a device. -/
  | control
  deriving DecidableEq, Repr

/-- Whether a character is of a kind. -/
def Kind.has (k : Kind) (c : Char) : Bool :=
  0x80 ≤ c.toNat && match k with
    | .letter => Text.isLetter c
    | .capital => Text.isCapital c
    | .small => Text.isSmall c
    | .gap => Text.isGap c
    | .shown => Text.isPrinted c && !Text.isGap c
    | .sign => Text.isPrinted c && !Text.isGap c && !Text.isLetter c
    | .control => c.toNat < 0xA0

/-- **Member** of brackets. -/
inductive Member where
  /-- The characters from one to another one. -/
  | span (low high : Char)
  /-- The characters of a kind. -/
  | kind (k : Kind)
  deriving DecidableEq, Repr

namespace Member

/-- A character as a member. -/
def only (c : Char) : Member :=
  .span c c

/-- Whether a character is meant by a member. -/
def has : Member → Char → Bool
  | .span low high, c => low.toNat ≤ c.toNat && c.toNat ≤ high.toNat
  | .kind k, c => k.has c

end Member

/-- **Atom**: a test of one character. -/
inductive Atom where
  /-- The character itself. -/
  | exactly (c : Char)
  /-- Any character. -/
  | anything
  /-- A character that one of some members means, or none of them. -/
  | among (negated : Bool) (members : List Member)
  deriving DecidableEq, Repr

/-- Why brackets are no test. -/
inductive BracketFault where
  /-- They are not closed. -/
  | unclosed
  /-- There is no class of the name. -/
  | unknownClass
  /-- The end of a span comes before its start. -/
  | reversedSpan
  deriving DecidableEq, Repr

/-- A character of a pattern, and whether it was quoted. -/
abbrev Mark := Char × Bool

namespace Atom

/-- Whether a character passes the test. -/
def accepts : Atom → Char → Bool
  | .exactly d, c => c == d
  | .anything, _ => true
  | .among negated members, c => members.any (·.has c) != negated

/-- The members of a named class, perhaps with those outside of ASCII. -/
def classMembers? (isWide : Bool) (name : Raw) : Option (List Member) :=
  let all (narrow : List Member) (kinds : List Kind) : Option (List Member) :=
    some (narrow ++ if isWide then kinds.map .kind else [])
  match String.ofList name with
  | "alpha" => all [.span 'a' 'z', .span 'A' 'Z'] [.letter]
  | "digit" => all [.span '0' '9'] []
  | "alnum" => all [.span 'a' 'z', .span 'A' 'Z', .span '0' '9'] [.letter]
  | "upper" => all [.span 'A' 'Z'] [.capital]
  | "lower" => all [.span 'a' 'z'] [.small]
  | "space" => all [.only ' ', .span '\t' '\x0d'] [.gap]
  | "blank" => all [.only ' ', .only '\t'] [.gap]
  | "punct" => all [.span '!' '/', .span ':' '@', .span '[' '\x60', .span '\x7b' '~'] [.sign]
  | "print" => all [.span ' ' '~'] [.shown, .gap]
  | "graph" => all [.span '!' '~'] [.shown]
  | "cntrl" => all [.span '\x00' '\x1f', .only '\x7f'] [.control]
  | "xdigit" => all [.span '0' '9', .span 'a' 'f', .span 'A' 'F'] []
  | _ => none

/-- The characters of words. -/
def wordMembers : List Member :=
  [.span 'a' 'z', .span 'A' 'Z', .span '0' '9', .only '_', .kind .letter]

/-- The characters that separate words. -/
def spaceMembers : List Member :=
  [.only ' ', .span '\t' '\x0d', .kind .gap]

/-- The text before the first two given unquoted characters, and what is after
    them. -/
def upTo (first second : Char) : List Mark → Option (Raw × List Mark)
  | [] => none
  | [_] => none
  | (c, q) :: (d, r) :: rest =>
    if c = first && d = second && !q && !r then some ([], rest)
    else (upTo first second ((d, r) :: rest)).map fun (name, after) => (c :: name, after)

/-- Reads the members of brackets up to the closing one, at most `n` of them. A
    closing bracket that comes `first` is meant itself. -/
def readMembers (isWide : Bool) : (n : Nat) → (first : Bool) → List Mark →
    Except BracketFault (List Member × List Mark)
  | 0, _, _ => .error .unclosed
  | _ + 1, _, [] => .error .unclosed
  | n + 1, first, (']', false) :: rest => do
    if !first then return ([], rest)
    let (members, after) ← readMembers isWide n false rest
    return (.only ']' :: members, after)
  | n + 1, _, ('[', false) :: (':', false) :: rest => do
    match upTo ':' ']' rest with
    | none => do
      let (members, after) ← readMembers isWide n false ((':', false) :: rest)
      return (.only '[' :: members, after)
    | some (name, rest) =>
      let (members, after) ← readMembers isWide n false rest
      match classMembers? isWide name with
      | none => throw .unknownClass
      | some here => return (here ++ members, after)
  | n + 1, _, (c, q) :: rest => do
    let (low, rest) := match c, q, rest with
      | '[', false, (kind, false) :: (d, _) :: (stop, false) :: (']', false) :: rest =>
        if (kind = '.' || kind = '=') && stop = kind then (d, rest)
        else (c, (kind, false) :: (d, false) :: (stop, false) :: (']', false) :: rest)
      | c, _, rest => (c, rest)
    match rest with
    | ('-', false) :: (']', false) :: _ => do
      let (members, after) ← readMembers isWide n false rest
      return (.only low :: members, after)
    | ('-', false) :: (high, _) :: rest => do
      let (members, after) ← readMembers isWide n false rest
      if high.toNat < low.toNat then throw .reversedSpan
      return (.span low high :: members, after)
    | rest => do
      let (members, after) ← readMembers isWide n false rest
      return (.only low :: members, after)

/-- Reads what follows an opening bracket. One of the `negators` at its start
    turns the test round. -/
def readBracket (negators : List Char) (isWide : Bool) (marks : List Mark) :
    Except BracketFault (Atom × List Mark) := do
  let (negated, body) := match marks with
    | (c, false) :: rest => if negators.contains c then (true, rest) else (false, marks)
    | marks => (false, marks)
  let (members, after) ← readMembers isWide (body.length + 1) true body
  return (.among negated members, after)

end Atom

end MapAudit.Script
