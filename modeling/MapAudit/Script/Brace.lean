import MapAudit.Script.Command

/-! # Braces

    In the richer dialect a word may stand for several words: those with each of
    the texts between braces in the place of the braces. The texts are separated
    by commas, or they are the numbers or letters between two others.
-/

namespace MapAudit.Script

namespace Brace

/-- A word with a piece for every character that stands for itself. -/
def spread (w : Word) : Word :=
  w.flatMap fun piece => match piece with
    | .plain r => r.map fun c => .plain [c]
    | piece => [piece]

/-- The character that a piece is. -/
def char? : Piece → Option Char
  | .plain [c] => some c
  | _ => none

/-- The parts between braces at the outermost level, separated by commas, and what
    comes after the closing brace; `depth` braces are open inside. -/
def parts? : (depth : Nat) → (part : Word) → (done : List Word) → Word →
    Option (List Word × Word)
  | _, _, _, [] => none
  | depth, part, done, piece :: rest =>
    match char? piece, depth with
    | some '\x7d', 0 => some (done ++ [part], rest)
    | some '\x7d', depth + 1 => parts? depth (part ++ [piece]) done rest
    | some '\x7b', depth => parts? (depth + 1) (part ++ [piece]) done rest
    | some ',', 0 => parts? 0 [] (done ++ [part]) rest
    | _, depth => parts? depth (part ++ [piece]) done rest

/-- The whole number that a text is. -/
def number? (r : Raw) : Option Int :=
  match r with
  | '-' :: digits => (Raw.toNat? digits).map fun n => -(n : Int)
  | '+' :: digits => (Raw.toNat? digits).map fun n => (n : Int)
  | digits => (Raw.toNat? digits).map fun n => (n : Int)

/-- The numbers from one to another in steps. -/
def steps (first last : Int) (step : Nat) : List Int :=
  let step := max 1 step
  let size := (last - first).natAbs / step + 1
  (List.range (min size 100000)).map fun i =>
    if first ≤ last then first + (i * step : Nat) else first - (i * step : Nat)

/-- A number with zeros before it, up to a width. -/
def padded (width : Nat) (n : Int) : Raw :=
  let digits := Raw.ofNat n.natAbs
  let size := width - (if n < 0 then 1 else 0)
  (if n < 0 then ['-'] else []) ++ List.replicate (size - digits.length) '0' ++ digits

/-- Whether a number is written with zeros before it. -/
def hasZeros (r : Raw) : Bool :=
  match r with
  | '0' :: _ :: _ | '-' :: '0' :: _ :: _ => true
  | _ => false

/-- The texts from one to another. -/
def range? (first last : Raw) (step : Nat) : Option (List Raw) :=
  match number? first, number? last, first, last with
  | some a, some b, _, _ =>
    let width := if hasZeros first || hasZeros last then max first.length last.length else 0
    some ((steps a b step).map (padded width))
  | _, _, [a], [b] =>
    if a.isAlpha && b.isAlpha then
      some ((steps a.toNat b.toNat step).map fun n => [Char.ofNat n.toNat])
    else none
  | _, _, _, _ => none

/-- A text split at two dots. -/
def splitAtDots : Raw → List Raw
  | [] => [[]]
  | '.' :: '.' :: rest => [] :: splitAtDots rest
  | c :: rest =>
    match splitAtDots rest with
    | [] => [[c]]
    | part :: parts => (c :: part) :: parts

/-- The texts that a sequence between braces stands for. -/
def sequence? (part : Word) : Option (List Word) := do
  let r ← part.mapM char?
  let texts ← match splitAtDots r with
    | [first, last] => range? first last 1
    | [first, last, step] => do range? first last (← number? step).natAbs
    | _ => none
  return texts.map fun r => r.map fun c => .plain [c]

/-- The words that a word with single characters stands for, at most `n` steps
    along it. -/
def expandUpTo : (n : Nat) → Word → List Word
  | 0, w => [w]
  | _ + 1, [] => [[]]
  | n + 1, piece :: rest =>
    let kept := (expandUpTo n rest).map (piece :: ·)
    match char? piece with
    | some '\x7b' =>
      match parts? 0 [] [] rest with
      | none => kept
      | some (parts, after) =>
        let middles : Option (List Word) := match parts with
          | [part] => sequence? part
          | parts => some (parts.flatMap (expandUpTo n))
        match middles with
        | none => kept
        | some middles =>
          let ends := expandUpTo n after
          middles.flatMap fun middle => ends.map (middle ++ ·)
    | _ => kept

/-- Puts characters that stand for themselves together. -/
def join : Word → Word
  | [] => []
  | piece :: rest =>
    match piece, join rest with
    | .plain r, .plain s :: others => .plain (r ++ s) :: others
    | piece, others => piece :: others

end Brace

/-- **Words** that a word with braces stands for. -/
def Word.braceExpanded (w : Word) : List Word :=
  let pieces := Brace.spread w
  if pieces.any fun piece => Brace.char? piece == some '\x7b' then
    (Brace.expandUpTo (pieces.length + 1) pieces).map Brace.join
  else [w]

end MapAudit.Script
