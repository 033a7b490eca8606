import MapAudit.Script.Regex.Basic
import MapAudit.Script.Raw

/-! # Searching for regular expressions

    A match begins as early in a text as it can, and from there it is as long as
    it can be. Of several ways to come to the same end the first is taken, in
    which alternatives are tried from left to right and repetitions go on as
    long as they can.

    From a place in a text an expression leads on to other places. All of them
    are kept, in the order of preference and each once, so that the work stays
    bounded by the length of the text.
-/

namespace MapAudit.Script

/-- A place in a text while an expression is matched. -/
structure Place where
  /-- The number of characters before it. -/
  offset : Nat
  /-- The character before it. -/
  before : Option Char
  /-- The text after it. -/
  rest : Raw
  /-- What the groups have matched so far, last one first: the number, where it
      starts, and the text. -/
  groups : List (Nat × Raw)

namespace Place

/-- The start of a text. -/
def atStart (r : Raw) : Place where
  offset := 0
  before := none
  rest := r
  groups := []

/-- The place after the next character. -/
def next? (p : Place) : Option Place :=
  match p.rest with
  | [] => none
  | c :: rest => some { p with offset := p.offset + 1, before := some c, rest }

/-- The place after a number of characters. -/
def skip : (n : Nat) → Place → Place
  | 0, p => p
  | n + 1, p =>
    match p.next? with
    | none => p
    | some q => skip n q

/-- Whether a character belongs to a word. -/
def inWord (c : Option Char) : Bool :=
  c.any fun c => Text.isLetter c || c.isDigit || c == '_'

/-- Whether a place is as asked for. -/
def isAt (p : Place) : Anchor → Bool
  | .start | .textStart => p.before.isNone
  | .finish | .textFinish => p.rest.isEmpty
  | .wordStart => !inWord p.before && inWord p.rest.head?
  | .wordEnd => inWord p.before && !inWord p.rest.head?
  | .wordEdge => inWord p.before != inWord p.rest.head?
  | .noWordEdge => inWord p.before == inWord p.rest.head?
  | .lineStart => p.before.isNone || p.before = some '\n'
  | .lineFinish => p.rest.isEmpty || p.rest.head? = some '\n'
  | .noWordBefore => !inWord p.before
  | .noWordAfter => !inWord p.rest.head?

/-- Places without those whose offset an earlier one has. -/
def once (places : List Place) : List Place :=
  match places with
  | [] => []
  | [p] => [p]
  | places => (places.foldl (fun (kept, seen) p =>
      if seen.contains p.offset then (kept, seen) else (p :: kept, p.offset :: seen))
    (([], []) : List Place × List Nat)).1.reverse

end Place

namespace Regex

/-- How letters are compared. -/
structure Matching where
  /-- Whether capital and small letters are alike. -/
  ignoresCase : Bool
  /-- Whether places with the same offset can differ in what they lead on to. -/
  keepsAll : Bool

/-- Whether a character passes a test. A byte that is no part of a character is just
    what it is itself. -/
def Matching.accepts (m : Matching) (a : Atom) (c : Char) : Bool :=
  if Raw.isMark c then a = .exactly c
  else a.accepts c || (m.ignoresCase && (a.accepts (Text.toSmall c) || a.accepts (Text.toCapital c)))

/-- Places of which each is kept as often as it matters. -/
def Matching.merge (m : Matching) (places : List Place) : List Place :=
  if m.keepsAll then places else Place.once places

/-- The places that steps lead to: those after a step more before those they
    come from. A step that leads nowhere is not taken, and neither is one to a
    place where earlier steps led already. `found` are the places so far. -/
def climb (m : Matching) (step : Place → List Place) : (steps : Nat) → (here : List Place) →
    (seen : Nat) → (found : List Place) → List Place
  | 0, _, _, found => found
  | steps + 1, here, seen, found =>
    let next := m.merge (here.flatMap fun p => (step p).filter fun q => p.offset < q.offset)
    let next := if m.keepsAll then next else match next with
      | [q] => if seen < q.offset then [q] else
        next.filter fun q => !(found.any fun p => p.offset == q.offset)
      | several => several.filter fun q => !(found.any fun p => p.offset == q.offset)
    if next.isEmpty then found
    else climb m step steps next (next.foldl (fun n q => max n q.offset) seen) (next ++ found)

/-- The places after a number of steps. -/
def stepTimes (m : Matching) (step : Place → List Place) : (n : Nat) → List Place → List Place
  | 0, here => here
  | n + 1, here => stepTimes m step n (m.merge (here.flatMap step))

/-- **Match** of an expression from a place on: the places it leads to. -/
def places (m : Matching) : Regex → Place → List Place
  | .empty, p => [p]
  | .one a, p =>
    match p.rest with
    | c :: _ => if m.accepts a c then p.next?.toList else []
    | [] => []
  | .at place, p => if p.isAt place then [p] else []
  | .both a b, p => m.merge ((places m a p).flatMap (places m b))
  | .either a b, p => m.merge (places m a p ++ places m b p)
  | .repeated body least most, p =>
    let start := stepTimes m (places m body) least [p]
    let steps := match most with
      | none => p.rest.length + 1
      | some most => most - least
    climb m (places m body) steps start (start.foldl (fun n q => max n q.offset) 0) start
  | .group n body, p =>
    (places m body p).map fun q =>
      { q with groups := (n, p.rest.take (q.offset - p.offset)) :: q.groups }
  | .again n, p =>
    match p.groups.lookup n with
    | none => []
    | some r =>
      let here := p.rest.take r.length
      if here = r || (m.ignoresCase && here.map Text.toSmall == r.map Text.toSmall) then
        [p.skip r.length]
      else []

/-- A match in a text. -/
structure Found where
  /-- The text before the match. -/
  before : Raw
  /-- The match. -/
  text : Raw
  /-- The text after the match. -/
  after : Raw
  /-- What the groups have matched. -/
  groups : List (Nat × Raw)

/-- The place that is preferred: the one that is farthest, and of several such
    the first. -/
def farthest : List Place → Option Place
  | [] => none
  | p :: rest =>
    match farthest rest with
    | none => some p
    | some q => if p.offset < q.offset then some q else some p

/-- The first match from a place on, at most `n` places further. `passed` is the
    text that was passed, last character first. -/
def searchFrom (m : Matching) (e : Regex) : (n : Nat) → (passed : Raw) → Place → Option Found
  | 0, _, _ => none
  | n + 1, passed, p =>
    match farthest (places m e p) with
    | some q => some {
        before := passed.reverse
        text := p.rest.take (q.offset - p.offset)
        after := q.rest
        groups := q.groups }
    | none =>
      match p.rest, p.next? with
      | c :: _, some q => searchFrom m e n (c :: passed) q
      | _, _ => none

/-- **Search** for an expression from a place on. -/
def searchAt? (ignoresCase : Bool) (e : Regex) (p : Place) : Option Found :=
  searchFrom { ignoresCase, keepsAll := e.looksBack } e (p.rest.length + 1) [] p

/-- **Search** for an expression in a text. -/
def search? (ignoresCase : Bool) (e : Regex) (r : Raw) : Option Found :=
  searchAt? ignoresCase e (.atStart r)

/-- Whether a text has a match. -/
def isIn (ignoresCase : Bool) (e : Regex) (r : Raw) : Bool :=
  (e.search? ignoresCase r).isSome

end Regex

end MapAudit.Script
