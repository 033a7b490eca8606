import MapAudit.Text.Units

/-! # Searching text

    Two searches are needed and they differ on purpose:

    * `find?` gives the offset of the *first* place where a needle occurs;
    * `countMatches` counts matches from left to right, each new one starting
      after the end of the one before, so overlapping places count once.

    `OccursAt` says in which places a needle occurs at all, overlapping or not.
-/

namespace MapAudit.Text

/-- **Occurrence**: `needle` stands in `cs` at byte offset `n`. -/
def OccursAt (needle cs : List Char) (n : Nat) : Prop :=
  ∃ front back, cs = front ++ needle ++ back ∧ utf8Length front = n

/-- Byte offset of the first occurrence of `needle`. -/
def find? (needle : List Char) : List Char → Option Nat
  | [] => if needle.isEmpty then some 0 else none
  | c :: cs =>
    if needle.isPrefixOf (c :: cs) then some 0
    else (find? needle cs).map (· + c.utf8Size)

/-- Whether `needle` occurs in a text. -/
def contains (needle cs : List Char) : Bool :=
  (find? needle cs).isSome

/-- Number of matches of `needle` from left to right without overlap. The
    first argument counts the characters still covered by the last match. -/
def countMatchesFrom (needle : List Char) : Nat → List Char → Nat
  | _, [] => 0
  | covered + 1, _ :: cs => countMatchesFrom needle covered cs
  | 0, c :: cs =>
    if needle.isPrefixOf (c :: cs) then
      1 + countMatchesFrom needle (needle.length - 1) cs
    else
      countMatchesFrom needle 0 cs

/-- Number of matches of a nonempty `needle` from left to right without overlap. -/
def countMatches (needle cs : List Char) : Nat :=
  countMatchesFrom needle 0 cs

end MapAudit.Text
