import MapAudit.Script.Atom
import MapAudit.Script.Raw

/-! # File patterns

    A file pattern has a star for any text and a question mark or brackets for
    one character. It is matched with a text as a whole. Quoted characters are
    meant themselves.

    Where groups count, a pattern may also hold alternatives in parentheses, with
    a sign before them that says how often one of them stands there.
-/

namespace MapAudit.Script

/-- **Repetition**: how often one of some alternatives stands in a text. -/
inductive Repetition where
  /-- Once or not at all. -/
  | atMostOnce
  /-- Any number of times. -/
  | anyTimes
  /-- At least once. -/
  | atLeastOnce
  /-- Once. -/
  | once
  /-- A text stands there that none of the alternatives is. -/
  | butNone
  deriving DecidableEq, Repr

namespace Repetition

/-- The repetition that a sign before a parenthesis means. -/
def ofSign? : Char → Option Repetition
  | '?' => some .atMostOnce
  | '*' => some .anyTimes
  | '+' => some .atLeastOnce
  | '@' => some .once
  | '!' => some .butNone
  | _ => none

end Repetition

/-- An item of a file pattern: any text, one character, or alternatives. -/
inductive FileItem where
  /-- Any text. -/
  | star
  /-- One character. -/
  | one (a : Atom)
  /-- One of some patterns, so and so often. -/
  | group (repetition : Repetition) (alternatives : List (List FileItem))

/-- **File pattern**. -/
abbrev FilePattern := List FileItem

namespace Mark

/-- The characters in parentheses up to the closing one, apart at the bars between
    alternatives, and what is after them. The first parenthesis is read already,
    `depth` more are open, and `here` is read of an alternative, last character
    first. -/
def alternatives? : (depth : Nat) → (here : List Mark) → List Mark →
    Option (List (List Mark) × List Mark)
  | _, _, [] => none
  | 0, here, (')', false) :: rest => some ([here.reverse], rest)
  | depth + 1, here, (')', false) :: rest => alternatives? depth ((')', false) :: here) rest
  | depth, here, ('(', false) :: rest => alternatives? (depth + 1) (('(', false) :: here) rest
  | 0, here, ('|', false) :: rest =>
    (alternatives? 0 [] rest).map fun (others, after) => (here.reverse :: others, after)
  | depth, here, ('\\', false) :: m :: rest => alternatives? depth (m :: ('\\', false) :: here) rest
  | depth, here, m :: rest => alternatives? depth (m :: here) rest

/-- Quoted and unquoted characters in their wide form. -/
def widen (marks : List Mark) : List Mark :=
  if marks.all fun m => m.1.toNat < 0x80 then marks
  else (marks.splitBy fun a b => a.2 == b.2).flatMap fun run =>
    (Raw.widen (run.map (·.1))).map fun c => (c, (run.head?.map (·.2)).getD false)

end Mark

namespace FilePattern

/-- Reads a pattern, at most `n` items of it. -/
def readUpTo (groups isWide : Bool) : (n : Nat) → List Mark → FilePattern
  | 0, _ => []
  | _ + 1, [] => []
  | n + 1, (sign, q) :: (c, r) :: rest =>
    let group? := if groups && c = '(' && !q && !r then
        (Repetition.ofSign? sign).bind fun repetition =>
          (Mark.alternatives? 0 [] rest).map fun found => (repetition, found)
      else none
    match group? with
    | some (repetition, alternatives, after) =>
      .group repetition (alternatives.map (readUpTo groups isWide n)) :: readUpTo groups isWide n after
    | none => single groups isWide n (sign, q) ((c, r) :: rest)
  | n + 1, m :: rest => single groups isWide n m rest
where
  /-- Reads an item that is no group, from a character on, and the items after it. -/
  single (groups isWide : Bool) (n : Nat) (m : Mark) (rest : List Mark) : FilePattern :=
    match m with
    | ('*', false) => .star :: readUpTo groups isWide n rest
    | ('?', false) => .one .anything :: readUpTo groups isWide n rest
    | ('[', false) =>
      match Atom.readBracket ['!', '^'] isWide rest with
      | .ok (a, rest) => .one a :: readUpTo groups isWide n rest
      | .error .reversedSpan | .error .unknownClass | .error .unclosed =>
        .one (.exactly '[') :: readUpTo groups isWide n rest
    | ('\\', false) =>
      match rest with
      | (c, _) :: rest => .one (.exactly c) :: readUpTo groups isWide n rest
      | [] => [.one (.exactly '\\')]
    | (c, _) => .one (.exactly c) :: readUpTo groups isWide n rest

/-- The pattern that a text with quotes is read as. It may hold groups, and its
    characters may be more than bytes. -/
def read (groups isWide : Bool) (marks : List Mark) : FilePattern :=
  readUpTo groups isWide marks.length (if isWide then Mark.widen marks else marks)

/-- The pattern without groups that a text without quotes is read as. -/
def ofRaw (r : Raw) : FilePattern :=
  read false true (r.map fun c => (c, false))

/-- The character that an item matches alone. -/
def alone? : FileItem → Option Char
  | .one (.exactly c) => some c
  | _ => none

/-- Whether a pattern matches more than one text. -/
def isOpen (p : FilePattern) : Bool :=
  p.any fun item => (alone? item).isNone

/-- The text of a pattern that matches nothing else. -/
def literalText (p : FilePattern) : Raw :=
  p.filterMap alone?

/-- The parts of a pattern between slashes. -/
def segments : FilePattern → List FilePattern
  | [] => [[]]
  | item :: rest =>
    if alone? item = some '/' then [] :: segments rest
    else match segments rest with
      | first :: others => (item :: first) :: others
      | [] => [[item]]

/-! ## Matching -/

/-- The ends of a text, longest first. -/
def endsOf : Raw → List Raw
  | [] => [[]]
  | c :: rest => (c :: rest) :: endsOf rest

/-- The ends of a text that are in one of two lists, longest first, at most `n`. -/
def unionUpTo : (n : Nat) → List Raw → List Raw → List Raw
  | 0, _, _ => []
  | _ + 1, [], b => b
  | _ + 1, a, [] => a
  | n + 1, x :: a, y :: b =>
    if x.length = y.length then x :: unionUpTo n a b
    else if y.length < x.length then x :: unionUpTo n a (y :: b)
    else y :: unionUpTo n (x :: a) b

/-- The ends of a text that are in one of two lists, longest first. -/
def union (a b : List Raw) : List Raw :=
  unionUpTo (a.length + b.length) a b

mutual

/-- The texts left after a match of one item with the start of each of some
    texts. Longer texts come first; each text is an end of the ones before. -/
def restsAfter : FileItem → List Raw → List Raw
  | .star, rests => rests.head?.elim [] endsOf
  | .one a, rests => rests.filterMap fun r => match r with
    | c :: rest => if a.accepts c then some rest else none
    | [] => none
  | .group repetition alternatives, rests =>
    let more (rests : List Raw) : List Raw := union rests (restsAmong alternatives rests)
    let size := (rests.head?.map List.length).getD 0
    match repetition with
    | .once => restsAmong alternatives rests
    | .atMostOnce => more rests
    | .anyTimes => Nat.repeat more size rests
    | .atLeastOnce => Nat.repeat more size (restsAmong alternatives rests)
    | .butNone =>
      rests.foldl (fun found r =>
        let lengths := (restsAmong alternatives [r]).map List.length
        union found ((endsOf r).filter fun e => !lengths.contains e.length)) []

/-- The texts left after a match of all items with the start of each of some
    texts. -/
def restsThrough : List FileItem → List Raw → List Raw
  | [], rests => rests
  | item :: p, rests => restsThrough p (restsAfter item rests)

/-- The texts left after a match of one of some patterns with the start of each of
    some texts. -/
def restsAmong : List (List FileItem) → List Raw → List Raw
  | [], _ => []
  | p :: others, rests => union (restsThrough p rests) (restsAmong others rests)

end

/-- The texts that may be left after a match with the start of a text, longest
    first. -/
def rests (p : FilePattern) (r : Raw) : List Raw :=
  restsThrough p [r]

/-- **Match** of a file pattern with the whole of a text. -/
def accepts (p : FilePattern) (r : Raw) : Bool :=
  (p.rests r).getLast? == some []

/-- Whether a pattern matches the characters of the whole of a raw text. -/
def acceptsRaw (p : FilePattern) (r : Raw) : Bool :=
  p.accepts (Raw.widen r)

/-- A text without its longest or shortest start that matches. -/
def cutStart (longest : Bool) (p : FilePattern) (r : Raw) : Raw :=
  let rests := p.rests r
  ((if longest then rests.getLast? else rests.head?)).getD r

/-- A text without its longest or shortest end that matches. -/
def cutEnd (longest : Bool) (p : FilePattern) (r : Raw) : Raw :=
  let ends := (endsOf r).filter p.accepts
  match if longest then ends.head? else ends.getLast? with
  | some e => r.take (r.length - e.length)
  | none => r

mutual

/-- Whether an item stands for a dot, perhaps only in one of its alternatives. -/
def meansDot : FileItem → Bool
  | .one (.exactly '.') => true
  | .group _ alternatives => anyBeginsWithDot alternatives
  | _ => false

/-- Whether a pattern begins with a dot. -/
def beginsWithDot : List FileItem → Bool
  | [] => false
  | item :: _ => meansDot item

/-- Whether one of some patterns begins with a dot. -/
def anyBeginsWithDot : List (List FileItem) → Bool
  | [] => false
  | p :: others => beginsWithDot p || anyBeginsWithDot others

end

/-! ## Letters of both kinds -/

/-- A test that does not tell capitals from small letters. -/
def foldedAtom : Atom → Atom
  | .exactly c => .among false [.only c.toLower, .only c.toUpper]
  | .anything => .anything
  | .among negated members =>
    .among negated (members ++ members.flatMap fun m => match m with
      | .span low high =>
        let letters := (List.range (min high.toNat 0x7F + 1 - low.toNat)).map fun i =>
          Char.ofNat (low.toNat + i)
        (letters.filter Char.isAlpha).flatMap fun c => [.only c.toLower, .only c.toUpper]
      | .kind _ => [])

mutual

/-- An item that does not tell capitals from small letters. -/
def foldedItem : FileItem → FileItem
  | .star => .star
  | .one a => .one (foldedAtom a)
  | .group repetition alternatives => .group repetition (foldedAll alternatives)

/-- A pattern that does not tell capitals from small letters. -/
def folded : List FileItem → List FileItem
  | [] => []
  | item :: p => foldedItem item :: folded p

/-- Patterns that do not tell capitals from small letters. -/
def foldedAll : List (List FileItem) → List (List FileItem)
  | [] => []
  | p :: others => folded p :: foldedAll others

end

end FilePattern

end MapAudit.Script
