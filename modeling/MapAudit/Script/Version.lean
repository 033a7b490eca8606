import MapAudit.Script.Raw

/-! # The order of versions

    Names with numbers in them are compared part by part: what has no digits by its
    characters, and numbers by their values. Letters come before other characters,
    and a tilde comes before everything, even the end. Names that begin with a point
    come first. The endings of two names count only when nothing before them
    differs.
-/

namespace MapAudit.Script

namespace Version

/-- The place of a character, or of the end, in the order of what has no digits. -/
def rank : Option Char → Int
  | none => -1
  | some c =>
    if c.isDigit then 0
    else if c.isAlpha then c.toNat
    else if c = '~' then -2
    else c.toNat + 256

/-- Compares what has no digits at the start of two texts, at most `n` characters of
    it. The answer has what is left. -/
def compareWords : (n : Nat) → Raw → Raw → Ordering × Raw × Raw
  | 0, a, b => (.eq, a, b)
  | n + 1, a, b =>
    let isWord (r : Raw) : Bool := r.head?.any (!Char.isDigit ·)
    if !isWord a && !isWord b then (.eq, a, b)
    else match compare (rank a.head?) (rank b.head?) with
      | .eq => compareWords n a.tail b.tail
      | order => (order, a, b)

/-- Compares the numbers at the start of two texts. -/
def compareNumbers (a b : Raw) : Ordering :=
  let digits (r : Raw) : Raw := (r.takeWhile Char.isDigit).dropWhile (· = '0')
  let a := digits a
  let b := digits b
  (compare a.length b.length).then (compareOfLessAndEq a b)

/-- Compares the parts of two texts, at most `n` of them. -/
def compareParts : (n : Nat) → Raw → Raw → Ordering
  | 0, _, _ => .eq
  | n + 1, a, b =>
    if a.isEmpty && b.isEmpty then .eq
    else match compareWords (a.length + b.length) a b with
      | (.eq, a, b) =>
        (compareNumbers a b).then
          (compareParts n (a.dropWhile Char.isDigit) (b.dropWhile Char.isDigit))
      | (order, _, _) => order

/-- Compares all parts of two texts. -/
def compareAll (a b : Raw) : Ordering :=
  compareParts (a.length + b.length + 1) a b

/-- A name without its endings: parts after points that begin with a letter. -/
def stem (r : Raw) : Raw :=
  let isEnding (part : Raw) : Bool := match part with
    | c :: rest => (c.isAlpha || c = '~') && rest.all fun c => c.isAlphanum || c = '~'
    | [] => false
  match r.splitOn '.' with
  | [] => []
  | first :: parts => ['.'].intercalate (first :: (parts.reverse.dropWhile isEnding).reverse)

/-- The place of a name among those that begin with a point and those that do not. -/
def place (r : Raw) : Nat :=
  if r.isEmpty then 0
  else if r = ['.'] then 1
  else if r = ['.', '.'] then 2
  else if r.head? = some '.' then 3
  else 4

/-- **Order** of two names as versions. -/
def order (a b : Raw) : Ordering :=
  (compare (place a) (place b)).then
    ((compareAll (stem a) (stem b)).then (compareAll a b))

end Version

end MapAudit.Script
