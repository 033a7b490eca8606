import MapAudit.Script.Atom
import MapAudit.Script.Utility.Input

/-! # Replacing and cutting out characters

    `tr` replaces characters of one set by those of another one, deletes them, or
    makes one of several in a row. `cut` cuts characters or fields out of lines.
-/

namespace MapAudit.Script

namespace Utility

open Procedure

/-! ## Sets of characters -/

/-- A part of a set of characters. -/
inductive SetItem where
  /-- Characters one after another. -/
  | run (cs : List Char)
  /-- A class of characters. -/
  | kind (name : Raw)
  /-- A character a number of times, or as often as needed. -/
  | again (c : Char) (count : Option Nat)
  deriving DecidableEq, Repr

/-- A text with its escapes resolved. A character that was escaped is marked. -/
def unescaped : Raw → List (Char × Bool)
  | '\\' :: a :: b :: c :: rest =>
    if Raw.isOctal a && Raw.isOctal b && Raw.isOctal c && Raw.octalValue [a, b, c] < 256 then
      (Raw.byteOf (Raw.octalValue [a, b, c]), true) :: unescaped rest
    else if Raw.isOctal a && Raw.isOctal b then
      (Raw.byteOf (Raw.octalValue [a, b]), true) :: unescaped (c :: rest)
    else (escape a, true) :: unescaped (b :: c :: rest)
  | '\\' :: a :: rest => (escape a, true) :: unescaped rest
  | c :: rest => (c, false) :: unescaped rest
  | [] => []
where
  /-- The character that an escape stands for. -/
  escape : Char → Char
    | 'a' => '\x07'
    | 'b' => '\x08'
    | 'f' => '\x0c'
    | 'n' => '\n'
    | 'r' => '\r'
    | 't' => '\t'
    | 'v' => '\x0b'
    | c => if Raw.isOctal c then Raw.byteOf (Raw.octalValue [c]) else c

/-- Why a text is no set of characters. -/
inductive SetFault where
  /-- There is no such class. -/
  | badKind (name : Raw)
  /-- A range ends before it begins. -/
  | backwards (first last : Char)
  deriving DecidableEq, Repr

/-- What stands between brackets at the start of a text, if it means something. -/
def bracketed? (r : List (Char × Bool)) : Option (Except SetFault SetItem × List (Char × Bool)) :=
  match r with
  | ('[', false) :: (':', false) :: rest =>
    let name := rest.takeWhile (·.1.isAlphanum)
    match rest.drop name.length with
    | (':', false) :: (']', false) :: rest =>
      let name := name.map (·.1)
      some (if (Atom.classMembers? false name).isSome then .ok (.kind name)
        else .error (.badKind name), rest)
    | _ => none
  | ('[', false) :: ('=', false) :: (c, _) :: ('=', false) :: (']', false) :: rest =>
    some (.ok (.run [c]), rest)
  | ('[', false) :: (c, _) :: ('*', false) :: rest =>
    let digits := (rest.takeWhile (·.1.isDigit)).map (·.1)
    match rest.drop digits.length with
    | (']', false) :: rest =>
      let count := if digits.head? = some '0' then Raw.octalValue digits
        else (Raw.toNat? digits).getD 0
      some (.ok (.again c (if count = 0 then none else some count)), rest)
    | _ => none
  | _ => none

/-- Reads the items of a set, at most `n` of them. -/
def readItems : (n : Nat) → List (Char × Bool) → Except SetFault (List SetItem)
  | 0, _ => .ok []
  | _ + 1, [] => .ok []
  | n + 1, (c, isEscaped) :: rest =>
    match bracketed? ((c, isEscaped) :: rest) with
    | some (item, rest) => do return (← item) :: (← readItems n rest)
    | none =>
      match rest with
      | ('-', false) :: (d, _) :: rest =>
        if d < c then .error (.backwards c d)
        else do
          let run := (List.range' c.toNat (d.toNat + 1 - c.toNat)).map Char.ofNat
          return .run run :: (← readItems n rest)
      | rest => do return .run [c] :: (← readItems n rest)

/-- All bytes. -/
def allBytes : List Char :=
  (List.range 256).map Char.ofNat

/-- The characters of a class. -/
def kindBytes (name : Raw) : List Char :=
  match Atom.classMembers? false name with
  | some members => allBytes.filter (Atom.among false members).accepts
  | none => []

/-- The characters of an item; `fill` says how often one is repeated that is to be
    repeated as often as needed. -/
def SetItem.bytes (fill : Nat) : SetItem → List Char
  | .run cs => cs
  | .kind name => kindBytes name
  | .again c count => List.replicate (count.getD fill) c

/-- The characters of a set. -/
def bytesOf (fill : Nat) (items : List SetItem) : List Char :=
  items.flatMap (SetItem.bytes fill)

/-- The places in a set where the letters of one case begin. -/
def casePlaces (items : List SetItem) : List Nat :=
  (items.foldl (fun (place, found) item =>
    (place + (item.bytes 0).length, match item with
      | .kind name => if ["lower", "upper"].contains (String.ofList name) then found ++ [place]
        else found
      | _ => found)) ((0, []) : Nat × List Nat)).2

/-! ## Replacing characters -/

/-- The options of `tr`. -/
def trOptions : OptionTable where
  letters := "AcCdst"
  names := [("complement", 'c'), ("delete", 'd'), ("squeeze-repeats", 's'), ("truncate-set1", 't')]
  endsEarly := true

/-- A text in which a character of a set does not follow itself, where another one
    may come before it. -/
def squeezed (set : List Char) (before : Option Char) (r : Raw) : Raw :=
  (r.foldl (fun ((done, last) : Raw × Option Char) c =>
    if last = some c && set.contains c then (done, last) else (c :: done, some c))
    ([], before)).1.reverse

/-- Writes the input after every portion of it was changed. What is written is then
    squeezed, with regard to characters of a set. -/
def changeInput (set : List Char) (change : Raw → Raw) : Procedure Nat := do
  match ← channelOf? 0 with
  | none => refuse 1 "read error: Bad file descriptor"
  | some i => do
    if (← get).machine.channel i matches .directory _ then
      refuse 1 "read error: Is a directory"
    let _ ← eachPortion i 8192 none fun (last : Option Char) r => do
      let changed := change r
      write (if set.isEmpty then changed else squeezed set last changed)
      return ((changed.getLast?).orElse fun _ => last, true)
    return 0

/-- Reads a set of characters. -/
def readSet (r : Raw) : Procedure (List SetItem) := do
  let marks := unescaped r
  if (r.reverse.takeWhile (· = '\\')).length % 2 = 1 then
    tell "warning: an unescaped backslash at end of string is not portable"
  match readItems (marks.length + 1) marks with
  | .ok items => return items
  | .error (.badKind name) => refuse 1 ("invalid character class " ++ Quote.curly name)
  | .error (.backwards first last) =>
    refuse 1 ("range-endpoints of '" ++ [first, '-', last]
      ++ "' are in reverse collating sequence order".toList)

/-- The characters that replace others, each with the one that it replaces. -/
def replacements (a : Arguments) (first second : List SetItem) :
    Procedure (List (Char × Char) × List Char) := do
  let isComplement := a.has 'c' || a.has 'C'
  let sources := bytesOf 0 first
  let sources := if isComplement then allBytes.filter (!sources.contains ·) else sources
  if first.any (· matches .again _ _) then
    refuse 1 "the [c*] repeat construct may not appear in string1"
  let isStrange (item : SetItem) : Bool := match item with
    | .kind name => !(["lower", "upper"].contains (String.ofList name))
    | _ => false
  if second.any isStrange then
    refuse 1 ("when translating, the only character classes that may appear in\n"
      ++ "string2 are 'upper' and 'lower'")
  if !(casePlaces second).all (casePlaces first).contains then
    refuse 1 "misaligned [:upper:] and/or [:lower:] construct"
  let given := (bytesOf 0 second).length
  let targets := bytesOf (sources.length - given) second
  if targets.isEmpty && !a.has 't' then
    refuse 1 "when not truncating set1, string2 must be non-empty"
  let padded := match targets.getLast? with
    | some c => if a.has 't' then targets
        else targets ++ List.replicate (sources.length - targets.length) c
    | none => []
  return (sources.zip padded, targets)

/-- Replaces or deletes characters of the input. -/
def tr (arguments : List Raw) : Procedure Nat := do
  let a ← readArguments trOptions arguments
  let deletes := a.has 'd'
  let squeezes := a.has 's'
  let least := if deletes == squeezes then 2 else 1
  let most := if deletes && !squeezes then 1 else 2
  let name := (← get).name
  let hint (r : Raw) : Procedure Nat := do
    complain (r ++ "\nTry '".toList ++ name ++ " --help' for more information.\n".toList)
    quit 1
  match a.operands with
  | [] => refuseUse 1 "missing operand"
  | sets =>
    if sets.length < least then
      tell ("missing operand after " ++ Quote.curly (sets.getLast?.getD []))
      hint (if squeezes then "Two strings must be given when both deleting and squeezing repeats."
        else "Two strings must be given when translating.")
    else if most < sets.length then
      tell ("extra operand " ++ Quote.curly ((sets[most]?).getD []))
      if sets.length = 2 then
        hint "Only one string may be given when deleting without squeezing repeats."
      else
        complain ("Try '" ++ name ++ " --help' for more information.\n".toList)
        quit 1
    else do
      let first ← readSet (sets.headD [])
      let second ← match sets with
        | [_, r] => some <$> readSet r
        | _ => pure none
      let meant := bytesOf 0 first
      let isMeant (c : Char) : Bool :=
        if a.has 'c' || a.has 'C' then !meant.contains c else meant.contains c
      match second with
      | none =>
        if deletes then changeInput [] fun r => r.filter (!isMeant ·)
        else changeInput (allBytes.filter isMeant) fun r => r
      | some second =>
        if deletes then changeInput (bytesOf 0 second) fun r => r.filter (!isMeant ·)
        else do
          let (pairs, targets) ← replacements a first second
          let table : Array Char := pairs.foldl (fun t (c, d) => t.setIfInBounds c.toNat d)
            allBytes.toArray
          changeInput (if squeezes then targets else []) fun r =>
            r.map fun c => (table[c.toNat]?).getD c

/-! ## Cutting lines -/

/-- The options of `cut`. -/
def cutOptions : OptionTable where
  letters := "b:c:d:f:nsz"
  names := [("bytes=", 'b'), ("characters=", 'c'), ("fields=", 'f'), ("delimiter=", 'd'),
    ("only-delimited", 's'), ("output-delimiter=", 'O'), ("complement", 'C'),
    ("zero-terminated", 'z')]

/-- A range of numbers. It may have no end. -/
abbrev Span := Nat × Option Nat

/-- A list of ranges that is being read. -/
structure SpanState where
  /-- The ranges that were read. -/
  done : List Span
  /-- The number before a dash, if there is one. -/
  left : Option Nat
  /-- Whether there was a dash. -/
  hasDash : Bool
  /-- The number that is being read. -/
  digits : Raw

/-- Reads a list of ranges. What is wrong with it is told in words; `inFields` says
    which words. -/
def readSpans (inFields : Bool) : SpanState → Raw → Except Raw (List Span)
  | s, [] => do return (← finish s).reverse
  | s, c :: rest => do
    if c = '-' then
      if s.hasDash then
        throw (if inFields then "invalid field range" else "invalid byte or character range").toList
      let value := Raw.toNat? s.digits
      if value = some 0 then throw zeroText
      readSpans inFields { s with left := value, hasDash := true, digits := [] } rest
    else if c = ',' || c = ' ' || c = '\t' then
      readSpans inFields { done := ← finish s, left := none, hasDash := false, digits := [] } rest
    else if c.isDigit then
      let digits := s.digits ++ [c]
      if 18446744073709551615 ≤ (Raw.toNat? digits).getD 0 then
        let all := digits ++ rest.takeWhile Char.isDigit
        throw ((if inFields then "field number " else "byte/character offset ").toList
          ++ Quote.curly all ++ " is too large".toList)
      readSpans inFields { s with digits } rest
    else
      throw ((if inFields then "invalid field value "
        else "invalid byte/character position ").toList ++ Quote.curly (c :: rest))
where
  /-- What is said about the number zero. -/
  zeroText : Raw :=
    if inFields then "fields are numbered from 1"
    else "byte/character positions are numbered from 1"
  /-- The ranges with the one that ends here. -/
  finish (s : SpanState) : Except Raw (List Span) := do
    let value := Raw.toNat? s.digits
    if s.hasDash then
      match s.left, value with
      | none, none => throw "invalid range with no endpoint: -".toList
      | left, none => return (left.getD 1, none) :: s.done
      | left, some n =>
        if n < left.getD 1 then throw "invalid decreasing range".toList
        return (left.getD 1, some n) :: s.done
    else
      match value with
      | some (n + 1) => return (n + 1, some (n + 1)) :: s.done
      | _ => throw zeroText

/-- Ranges in order, and joined where they have numbers in common. -/
def joinSpans (spans : List Span) : List Span :=
  ((spans.mergeSort fun a b => a.1 ≤ b.1).foldl (fun (done : List Span) span =>
    match done with
    | (first, last) :: others =>
      match last with
      | none => done
      | some n =>
        if span.1 ≤ n then (first, span.2.map (max n)) :: others else span :: done
    | [] => [span]) []).reverse

/-- The ranges between ranges, from a number on. -/
def gapsFrom : Nat → List Span → List Span
  | n, [] => [(n, none)]
  | n, (first, last) :: rest =>
    let before : List Span := if n < first then [(n, some (first - 1))] else []
    match last with
    | none => before
    | some last => before ++ gapsFrom (last + 1) rest

/-- The members of a list with numbers in a range. -/
def inSpan {α : Type} (span : Span) (l : List α) : List α :=
  match span.2 with
  | none => l.drop (span.1 - 1)
  | some last => (l.take last).drop (span.1 - 1)

/-- Refuses options that do not go together. -/
def demandSpans (a : Arguments) : Procedure (Bool × List Span) := do
  let lists := a.given.filter fun (c, _) => c = 'b' || c = 'c' || c = 'f'
  match lists with
  | [] => refuseUse 1 "you must specify a list of bytes, characters, or fields"
  | [(c, r)] => do
    let inFields : Bool := c = 'f'
    if !inFields && a.has 'd' then
      refuseUse 1 "an input delimiter may be specified only when operating on fields"
    if !inFields && a.has 's' then
      refuseUse 1 "suppressing non-delimited lines makes sense\n\tonly when operating on fields"
    match readSpans inFields { done := [], left := none, hasDash := false, digits := [] } r with
    | .ok spans =>
      let spans := joinSpans spans
      return (inFields, if a.has 'C' then gapsFrom 1 spans else spans)
    | .error why => refuseUse 1 why
  | _ => refuseUse 1 "only one list may be specified"

/-- Cuts characters or fields out of lines. -/
def cut (arguments : List Raw) : Procedure Nat := do
  let a ← readArguments cutOptions arguments
  if (a.values 'd').any (1 < ·.length) then
    refuseUse 1 "the delimiter must be a single character"
  let (inFields, spans) ← demandSpans a
  let delimiter := match a.value? 'd' with
    | some [c] => c
    | some _ => '\x00'
    | none => '\t'
  let finish := if a.has 'z' then '\x00' else '\n'
  let lineOf (l : Raw) : Option Raw :=
    if inFields then
      if !l.contains delimiter then (if a.has 's' then none else some l)
      else
        let fields := l.splitOn delimiter
        some (((a.value? 'O').getD [delimiter]).intercalate (spans.flatMap (inSpan · fields)))
    else match a.value? 'O' with
      | some between => some (between.intercalate ((spans.map (inSpan · l)).filter (!·.isEmpty)))
      | none => some (spans.flatMap (inSpan · l))
  let (_, isFine) ← throughLines a.operands finish tellFile () fun _ l => do
    match lineOf (withoutEnd finish l).1 with
    | some cut => write (cut ++ [finish])
    | none => return ()
  return if isFine then 0 else 1

end Utility

end MapAudit.Script
