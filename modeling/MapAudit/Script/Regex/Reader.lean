import MapAudit.Script.Regex.Basic

/-! # Reading regular expressions

    There are two ways to write a regular expression. In the basic one, groups,
    alternatives and counts need a backslash; in the extended one they have a
    meaning without it. Utilities differ in a few points, which a flavor names.

    Reading goes down into groups and along the text, in a number of steps that
    the length of the text bounds.
-/

namespace MapAudit.Script

/-- Why a text is no regular expression. -/
inductive RegexFault where
  /-- A group is not closed. -/
  | unclosedGroup
  /-- A group is closed that was not opened. -/
  | unopenedGroup
  /-- Brackets are wrong. -/
  | bracket (fault : BracketFault)
  /-- Brackets have an element that is more than one character. -/
  | longElement
  /-- There is nothing after an opening bracket. -/
  | emptyBracket
  /-- A class stands in no brackets but its own. -/
  | bareClass
  /-- A count is not closed. -/
  | unclosedCount
  /-- A count is not a count. -/
  | badCount
  /-- A count is too great. -/
  | tooGreat
  /-- There is nothing before a repetition. -/
  | nothingRepeated
  /-- There is no group that is asked for. -/
  | badReference
  /-- The text ends with a backslash. -/
  | trailingBackslash
  deriving DecidableEq, Repr

/-- The words for a fault. -/
def RegexFault.message : RegexFault → String
  | .unclosedGroup => "Unmatched ( or \\("
  | .unopenedGroup => "Unmatched ) or \\)"
  | .bracket .unclosed => "Unmatched [, [^, [:, [., or [="
  | .bracket .unknownClass => "Invalid character class name"
  | .bracket .reversedSpan => "Invalid range end"
  | .longElement => "Invalid collation character"
  | .emptyBracket => "Invalid regular expression"
  | .bareClass => "character class syntax is [[:space:]], not [:space:]"
  | .unclosedCount => "Unmatched \\\x7b"
  | .badCount => "Invalid content of \\\x7b\\\x7d"
  | .tooGreat => "Regular expression too big"
  | .nothingRepeated => "Invalid preceding regular expression"
  | .badReference => "Invalid back reference"
  | .trailingBackslash => "Trailing backslash"

/-- **Flavor** of regular expressions. -/
structure RegexFlavor where
  /-- Whether the extended way of writing is used. -/
  isExtended : Bool
  /-- Whether marks that make no sense where they stand are meant themselves. -/
  isLenient : Bool
  /-- Whether a class that stands in no brackets but its own is refused. -/
  refusesBareClass : Bool := false
  /-- Whether a repetition is refused right after another one. -/
  refusesDoubled : Bool := false
  deriving DecidableEq, Repr

namespace Regex

/-- A mark in a regular expression. -/
inductive Mark where
  | openGroup
  | closeGroup
  | alternative
  | star
  | plus
  | optional
  | openCount
  | bracket
  | dot
  | caret
  | dollar
  | reference (n : Nat)
  | place (a : Anchor)
  | set (a : Atom)
  | literal (c : Char)
  | backslash
  deriving DecidableEq, Repr

/-- What has a meaning in both ways of writing when a backslash stands before
    it. -/
def escapedMark (c : Char) : Mark :=
  match c with
  | 'w' => .set (.among false Atom.wordMembers)
  | 'W' => .set (.among true Atom.wordMembers)
  | 's' => .set (.among false Atom.spaceMembers)
  | 'S' => .set (.among true Atom.spaceMembers)
  | '<' => .place .wordStart
  | '>' => .place .wordEnd
  | 'b' => .place .wordEdge
  | 'B' => .place .noWordEdge
  | '\x60' => .place .textStart
  | '\x27' => .place .textFinish
  | c => if '1' ≤ c && c ≤ '9' then .reference (c.toNat - '0'.toNat) else .literal c

/-- The mark at the start of a text, and the text after it. -/
def nextMark? (flavor : RegexFlavor) (r : Raw) : Option (Mark × Raw) :=
  match r with
  | [] => none
  | ['\\'] => some (.backslash, [])
  | '\\' :: c :: rest =>
    let basic (m : Mark) : Mark := if flavor.isExtended then .literal c else m
    match c with
    | '(' => some (basic .openGroup, rest)
    | ')' => some (basic .closeGroup, rest)
    | '|' => some (basic .alternative, rest)
    | '+' => some (basic .plus, rest)
    | '?' => some (basic .optional, rest)
    | '\x7b' => some (basic .openCount, rest)
    | c => some (escapedMark c, rest)
  | c :: rest =>
    let extended (m : Mark) : Mark := if flavor.isExtended then m else .literal c
    match c with
    | '(' => some (extended .openGroup, rest)
    | ')' => some (extended .closeGroup, rest)
    | '|' => some (extended .alternative, rest)
    | '+' => some (extended .plus, rest)
    | '?' => some (extended .optional, rest)
    | '\x7b' => some (extended .openCount, rest)
    | '*' => some (.star, rest)
    | '[' => some (.bracket, rest)
    | '.' => some (.dot, rest)
    | '^' => some (.caret, rest)
    | '$' => some (.dollar, rest)
    | c => some (.literal c, rest)

/-- A place while an expression is read. -/
structure Cursor where
  /-- The text from there on. -/
  rest : Raw
  /-- Number of groups that were opened. -/
  opened : Nat
  /-- The groups that were closed. -/
  closed : List Nat

/-- A reader of part of an expression. -/
abbrev Reader := StateT Cursor (Except RegexFault)

/-- Sets the text from here on. -/
def Reader.goTo (rest : Raw) : Reader Unit :=
  modify fun c => { c with rest }

/-- A count between braces: the least and perhaps the greatest number, and the
    text after it. -/
def readCount (flavor : RegexFlavor) (r : Raw) :
    Except RegexFault ((Nat × Option Nat) × Raw) := do
  let least := r.takeWhile Char.isDigit
  let r := r.drop least.length
  let (hasComma, r) := match r with
    | ',' :: rest => (true, rest)
    | r => (false, r)
  let most := if hasComma then r.takeWhile Char.isDigit else []
  let r := r.drop most.length
  let closing : Raw := if flavor.isExtended then ['\x7d'] else ['\\', '\x7d']
  if r.isEmpty then throw .unclosedCount
  if !closing.isPrefixOf r || (least.isEmpty && !hasComma) then throw .badCount
  let low := (Raw.toNat? least).getD 0
  let high := if !hasComma then some low else Raw.toNat? most
  if high.any (· < low) then throw .badCount
  if high.getD low > 32767 then throw .tooGreat
  return ((low, high), r.drop closing.length)

/-- Whether an anchor for the end stands rightly before a text. -/
def endsHere (flavor : RegexFlavor) (rest : Raw) : Bool :=
  match nextMark? flavor rest with
  | none => true
  | some (.closeGroup, _) | some (.alternative, _) => true
  | some _ => flavor.isExtended

/-- An element of brackets. -/
inductive Element where
  /-- A character. -/
  | character (c : Char)
  /-- The characters that are alike to one. -/
  | equals (c : Char)
  /-- The characters of a class. -/
  | kind (members : List Member)
  deriving DecidableEq, Repr

/-- The text before a mark and a closing bracket, and what is after them. -/
def upToClosing? (mark : Char) : Raw → Option (Raw × Raw)
  | [] => none
  | [_] => none
  | c :: d :: rest =>
    if c = mark && d = ']' then some ([], rest)
    else (upToClosing? mark (d :: rest)).map fun (name, after) => (c :: name, after)

/-- Reads an element of brackets. -/
def readElement : Raw → Except RegexFault (Element × Raw)
  | [] => throw (.bracket .unclosed)
  | '[' :: mark :: rest => do
    if !([':', '.', '='].contains mark) then return (.character '[', mark :: rest)
    match upToClosing? mark rest, mark with
    | none, _ => throw (.bracket .unclosed)
    | some (name, rest), ':' =>
      match Atom.classMembers? true name with
      | some members => return (.kind members, rest)
      | none => throw (.bracket .unknownClass)
    | some ([c], rest), '.' => return (.character c, rest)
    | some ([c], rest), _ => return (.equals c, rest)
    | some _, _ => throw .longElement
  | c :: rest => return (.character c, rest)

/-- The members that an element stands for alone. -/
def Element.members : Element → List Member
  | .character c | .equals c => [.only c]
  | .kind members => members

/-- Reads the elements of brackets, at most `n` of them. -/
def readElements : (n : Nat) → (isFirst : Bool) → Raw →
    Except RegexFault (List Member × Raw)
  | 0, _, _ => throw (.bracket .unclosed)
  | n + 1, isFirst, r => do
    let goOn (members : List Member) (rest : Raw) :
        Except RegexFault (List Member × Raw) := do
      let (others, rest) ← readElements n false rest
      return (members ++ others, rest)
    match isFirst, r with
    | false, ']' :: rest => return ([], rest)
    | false, ['-'] => throw (.bracket .unclosed)
    | false, '-' :: c :: _ => if c ≠ ']' then throw (.bracket .reversedSpan)
    | _, _ => pure ()
    let (element, rest) ← readElement r
    match rest with
    | '-' :: ']' :: _ => goOn element.members rest
    | '-' :: rest => do
      let (last, rest) ← readElement rest
      match element, last with
      | .character low, .character high =>
        if high.toNat < low.toNat then throw (.bracket .reversedSpan)
        else goOn [.span low high] rest
      | _, _ => throw (.bracket .reversedSpan)
    | rest => goOn element.members rest

/-- An atom in brackets. -/
def readBrackets (flavor : RegexFlavor) (r : Raw) : Except RegexFault (Atom × Raw) := do
  let (isNegated, body) := match r with
    | '^' :: rest => (true, rest)
    | r => (false, r)
  if body.isEmpty then throw .emptyBracket
  let (members, rest) ← readElements (body.length + 1) true body
  let inside := body.take (body.length - rest.length - 1)
  if flavor.refusesBareClass && inside.length > 2 && inside.head? = some ':'
      && inside.getLast? = some ':' && !inside.contains '-' then throw .bareClass
  return (.among isNegated members, rest)

mutual

/-- Reads alternatives. -/
def readAlternatives (flavor : RegexFlavor) : (steps : Nat) → (depth : Nat) → Reader Regex
  | 0, _ => throw .tooGreat
  | steps + 1, depth => do
    let first ← readSequence flavor steps depth true
    match nextMark? flavor (← get).rest with
    | some (.alternative, rest) => do
      Reader.goTo rest
      return .either first (← readAlternatives flavor steps depth)
    | _ => return first

/-- Reads a sequence. `isFirst` says that nothing of it was read yet. -/
def readSequence (flavor : RegexFlavor) : (steps : Nat) → (depth : Nat) → (isFirst : Bool) →
    Reader Regex
  | 0, _, _ => throw .tooGreat
  | steps + 1, depth, isFirst => do
    match nextMark? flavor (← get).rest with
    | none => return .empty
    | some (.alternative, _) => return .empty
    | some (.closeGroup, rest) =>
      if depth > 0 then return .empty
      if flavor.isExtended && flavor.isLenient then
        Reader.goTo rest
        return .both (← readRepeated flavor steps (.one (.exactly ')')))
          (← readSequence flavor steps depth false)
      throw .unopenedGroup
    | some (.caret, rest) =>
      if isFirst || flavor.isExtended then
        Reader.goTo rest
        return .both (.at .start) (← readSequence flavor steps depth true)
      else do
        Reader.goTo rest
        return .both (← readRepeated flavor steps (.one (.exactly '^')))
          (← readSequence flavor steps depth false)
    | some (mark, rest) => do
      let isRepetition := [.star, .plus, .optional, .openCount].contains mark
      if isRepetition && isFirst then
        if flavor.isExtended then
          if !flavor.isLenient then throw .nothingRepeated
          match mark, readCount flavor rest with
          | .openCount, .ok (_, rest) => do
            Reader.goTo rest
            return ← readSequence flavor steps depth true
          | .openCount, .error _ => pure ()
          | _, _ => do
            Reader.goTo rest
            return ← readSequence flavor steps depth true
        if mark = .openCount && flavor.refusesDoubled then throw .nothingRepeated
      Reader.goTo rest
      let one ← readOne flavor steps depth mark
      let whole ← readRepeated flavor steps one
      return .both whole (← readSequence flavor steps depth false)

/-- Reads what a mark stands for. -/
def readOne (flavor : RegexFlavor) : (steps : Nat) → (depth : Nat) → Mark → Reader Regex
  | 0, _, _ => throw .tooGreat
  | steps + 1, depth, mark => do
    match mark with
    | .openGroup => do
      let n := (← get).opened + 1
      modify fun c => { c with opened := n }
      let body ← readAlternatives flavor steps (depth + 1)
      match nextMark? flavor (← get).rest with
      | some (.closeGroup, rest) => do
        Reader.goTo rest
        modify fun c => { c with closed := n :: c.closed }
        return .group n body
      | _ => throw .unclosedGroup
    | .bracket => do
      let (a, rest) ← readBrackets flavor (← get).rest
      Reader.goTo rest
      return .one a
    | .dot => return .one .anything
    | .dollar =>
      if endsHere flavor (← get).rest then return .at .finish else return .one (.exactly '$')
    | .reference n =>
      if (← get).closed.contains n then return .again n else throw .badReference
    | .place a => return .at a
    | .set a => return .one a
    | .literal c => return .one (.exactly c)
    | .backslash => throw .trailingBackslash
    | .star => return .one (.exactly '*')
    | .plus => return .one (.exactly '+')
    | .optional => return .one (.exactly '?')
    | .openCount => return .one (.exactly '\x7b')
    | .caret | .closeGroup | .alternative => return .empty

/-- Reads the repetitions after an expression. -/
def readRepeated (flavor : RegexFlavor) : (steps : Nat) → Regex → Reader Regex
  | 0, _ => throw .tooGreat
  | steps + 1, e => do
    let goOn (e : Regex) (rest : Raw) : Reader Regex := do
      Reader.goTo rest
      match flavor.refusesDoubled, nextMark? flavor rest with
      | true, some (.star, _) | true, some (.openCount, _) => throw .nothingRepeated
      | _, _ => readRepeated flavor steps e
    match nextMark? flavor (← get).rest with
    | some (.star, rest) => goOn (.repeated e 0 none) rest
    | some (.plus, rest) => goOn (.repeated e 1 none) rest
    | some (.optional, rest) => goOn (.repeated e 0 (some 1)) rest
    | some (.openCount, rest) => do
      match readCount flavor rest with
      | .ok ((least, most), rest) => goOn (.repeated e least most) rest
      | .error fault =>
        if flavor.isExtended && flavor.isLenient && fault ≠ .tooGreat
            && !isReversed rest then return e
        throw fault
    | _ => return e
where
  /-- Whether a count is one, but its end comes before its start. -/
  isReversed (r : Raw) : Bool :=
    match (r.takeWhile (· != '\x7d')).splitOn ',' with
    | [a, b] => match Raw.toNat? a, Raw.toNat? b with
      | some a, some b => b < a
      | _, _ => false
    | _ => false

end

/-- The expression that a text is read as. -/
def read (flavor : RegexFlavor) (r : Raw) : Except RegexFault Regex := do
  let (e, _) ← (readAlternatives flavor (4 * r.length + 8) 0).run
    { rest := r, opened := 0, closed := [] }
  return e

end Regex

end MapAudit.Script
