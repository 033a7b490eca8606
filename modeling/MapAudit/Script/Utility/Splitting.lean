import MapAudit.Script.Utility.Lines

/-! # Splitting files

    `split` writes parts of a file into files of their own: so many lines or bytes at a
    time, or one of so many parts. The names of the files have a suffix that counts them.
-/

namespace MapAudit.Script

namespace Utility

open Procedure

/-! ## Options -/

/-- How a file is split. -/
inductive SplitRule where
  /-- So many lines at a time. -/
  | lines (n : Nat)
  /-- So many bytes at a time. -/
  | bytes (n : Nat)
  /-- As many whole lines at a time as have at most so many bytes. -/
  | lineBytes (n : Nat)
  /-- Into so many parts of one size. Perhaps only one of them is written. -/
  | parts (only : Option Nat) (n : Nat)
  /-- Into so many parts of about one size, without breaking lines. -/
  | lineParts (only : Option Nat) (n : Nat)
  /-- Into so many parts that get the lines in turn. -/
  | turns (only : Option Nat) (n : Nat)
  deriving DecidableEq, Repr

/-- How suffixes are made. -/
structure SuffixRule where
  /-- The digits of them. -/
  digits : List Char
  /-- How long they are. -/
  size : Nat
  /-- Whether they get longer when there are no more of them. -/
  grows : Bool
  /-- The number of the first one. -/
  start : Nat

namespace SuffixRule

/-- So many digits of a number. -/
def numeral (digits : List Char) : (size n : Nat) → Raw
  | 0, _ => []
  | size + 1, n => numeral digits size (n / digits.length) ++ [digits.getD (n % digits.length) '0']

/-- The suffix for a number of a file, where at most `n` digits are put before it. A suffix
    that grows begins with the last digit once for every two digits that it grew by. -/
def suffixUpTo (s : SuffixRule) (size k : Nat) : (n : Nat) → Option Raw
  | 0 => none
  | n + 1 =>
    let base := s.digits.length
    let all := (List.replicate size base).foldl (· * ·) 1
    let usable := if s.grows then all - all / base else all
    if k < usable then some (numeral s.digits size k)
    else if s.grows then
      (suffixUpTo s (size + 1) (k - usable) n).map fun r => s.digits.getLast?.toList ++ r
    else none

/-- The suffix of the file with a number. -/
def suffix? (s : SuffixRule) (k : Nat) : Option Raw :=
  s.suffixUpTo s.size (s.start + k) 20

end SuffixRule

/-- The options of `split`. -/
def splitOptions : OptionTable where
  letters := "0123456789C:a:b:del:n:t:ux"
  names := [("additional-suffix=", 'S'), ("bytes=", 'b'), ("elide-empty-files", 'e'),
    ("hex-suffixes?", 'X'), ("line-bytes=", 'C'), ("lines=", 'l'), ("number=", 'n'),
    ("numeric-suffixes?", 'D'), ("separator=", 't'), ("suffix-length=", 'a'), ("unbuffered", 'u'),
    ("verbose", 'v')]

/-- A number that is not zero, of which it is said what it is. -/
def demandPositive (what : String) (r : Raw) : Procedure Nat := do
  match amount? r with
  | some n => if n ≠ 0 then return n
  | none => pure ()
  refuse 1 ("invalid number of ".toList ++ what.toList ++ ": ".toList ++ Quote.curly r)

/-- A number of parts, and perhaps the number of the one that is written. -/
def demandParts (r : Raw) : Procedure (Option Nat × Nat) := do
  match r.splitOn '/' with
  | [only, n] => do
    let n ← demandPositive "chunks" n
    match amount? only with
    | some k => if 0 < k && k ≤ n then return (some k, n)
    | none => pure ()
    refuse 1 ("invalid chunk number: ".toList ++ Quote.curly only)
  | _ => return (none, ← demandPositive "chunks" r)

/-- The rule that options say. -/
def splitRule (a : Arguments) : Procedure SplitRule := do
  let digits := (a.given.map (·.1)).filter Char.isDigit
  let given ← (a.given.filter fun (c, _) => "bCln".toList.contains c).mapM fun (c, r) => do
    match c, r with
    | 'b', r => return .bytes (← demandPositive "bytes" r)
    | 'C', r => return .lineBytes (← demandPositive "bytes" r)
    | 'l', r => return .lines (← demandPositive "lines" r)
    | _, 'l' :: '/' :: r => do
      let (only, n) ← demandParts r
      return .lineParts only n
    | _, 'r' :: '/' :: r => do
      let (only, n) ← demandParts r
      return .turns only n
    | _, r => do
      let (only, n) ← demandParts r
      return .parts only n
  let given := given ++ if digits.isEmpty then []
    else [.lines ((Raw.toNat? digits).getD 0)]
  match given with
  | [] => return .lines 1000
  | [rule] => return rule
  | _ => refuseUse 1 "cannot split in more than one way".toList

/-- The rule for suffixes that options say. -/
def suffixRule (a : Arguments) (rule : SplitRule) : Procedure SuffixRule := do
  let size ← (a.value? 'a').mapM fun r => do
    match amount? r with
    | some n => return n
    | none => refuse 1 ("invalid suffix length: ".toList ++ Quote.curly r)
  let kind := a.lastOf? "dxDX"
  let digits : List Char := match kind with
    | none => "abcdefghijklmnopqrstuvwxyz".toList
    | some 'd' | some 'D' => "0123456789".toList
    | some _ => "0123456789abcdef".toList
  let start ← match kind.bind a.value? with
    | none | some [] => pure 0
    | some r => match Raw.toNat? r with
      | some n => pure n
      | none => refuse 1 (r ++ ": invalid start value for numerical suffix".toList)
  let count := match rule with
    | .parts _ n | .lineParts _ n | .turns _ n => n
    | _ => 0
  let needed := (List.range 20).findIdx fun size =>
    start + count ≤ (List.replicate size digits.length).foldl (· * ·) 1
  let size' := match size with
    | none | some 0 => if count = 0 then 2 else max 2 needed
    | some n => n
  return { digits, size := size', grows := (size = none || size = some 0) && count = 0 && start = 0
           start }

/-! ## Parts -/

/-- Lists of so many elements, at most `n` of them. -/
def inGroups {α : Type} (size : Nat) : (n : Nat) → List α → List (List α)
  | 0, _ | _, [] => []
  | n + 1, xs => xs.take size :: inGroups size n (xs.drop size)

/-- Lines put together as long as they have at most so many bytes. Longer ones are broken. -/
def byLineBytes (size : Nat) : (n : Nat) → (here : Raw) → List Raw → List Raw
  | 0, _, _ => []
  | _ + 1, here, [] => if here.isEmpty then [] else [here]
  | n + 1, here, l :: rest =>
    if here.length + l.length ≤ size then byLineBytes size n (here ++ l) rest
    else if here.isEmpty then l.take size :: byLineBytes size n [] (l.drop size :: rest)
    else here :: byLineBytes size n [] (l :: rest)

/-- Lines in parts of about one size: a line belongs to the part in which it begins. -/
def byLineParts (total count : Nat) (lines : List Raw) : List Raw :=
  let size := max 1 (total / count)
  let larger := if total < count then 0 else total % count
  let partOf (place : Nat) : Nat :=
    let first := larger * (size + 1)
    min (count - 1) (if place < first then place / (size + 1) else larger + (place - first) / size)
  let (_, placed) := lines.foldl (fun ((place, placed) : Nat × List (Nat × Raw)) l =>
    (place + l.length, (partOf place, l) :: placed)) (0, [])
  let placed := placed.reverse
  (List.range count).map fun k => (placed.filter (·.1 = k)).flatMap (·.2)

/-- The parts of a text. -/
def SplitRule.split (rule : SplitRule) (finish : Char) (r : Raw) : List Raw :=
  let lines : List Raw :=
    let (ended, last) := endedParts finish r
    if last.isEmpty then ended else ended ++ [last]
  match rule with
  | .lines n => (inGroups n (lines.length + 1) lines).map List.flatten
  | .bytes n => inGroups n (r.length + 1) r
  | .lineBytes n => byLineBytes n (r.length + lines.length + 1) [] lines
  | .parts _ n =>
    let size := r.length / n
    let larger := r.length % n
    let start (k : Nat) : Nat := k * size + min k larger
    (List.range n).map fun k => (r.drop (start k)).take (start (k + 1) - start k)
  | .lineParts _ n => byLineParts r.length n lines
  | .turns _ n => (List.range n).map fun k =>
      (lines.zipIdx.filter fun (_, i) => i % n = k).flatMap (·.1)

/-- The number of the part that alone is written. -/
def SplitRule.only? : SplitRule → Option Nat
  | .parts only _ | .lineParts only _ | .turns only _ => only
  | _ => none

/-! ## Splitting -/

/-- What separates lines. -/
def splitFinish (values : List Raw) : Procedure Char := do
  let marks : List Char ← values.mapM fun r => match r with
    | [] => refuse 1 "empty record separator".toList
    | [c] => return c
    | ['\\', '0'] => return '\x00'
    | r => refuse 1 ("multi-character separator ".toList ++ Quote.curly r)
  match marks.eraseDups with
  | [] => return '\n'
  | [c] => return c
  | _ => refuse 1 "multiple separator characters specified".toList

/-- Splits a file. -/
def split (arguments : List Raw) : Procedure Nat := do
  let a ← readArguments splitOptions arguments
  let finish ← splitFinish (a.values 't')
  let rule ← splitRule a
  let suffixes ← suffixRule a rule
  refuseExtra 1 2 a
  let file := a.operands.headD ['-']
  let start := a.operands.getD 1 ['x']
  match ← readOperand file with
  | .error fault =>
    refuse 1 ("cannot open ".toList ++ Quote.always file ++ " for reading: ".toList ++ faultText fault)
  | .ok r => do
    let parts := rule.split finish r
    match rule.only? with
    | some k => do
      write (parts.getD (k - 1) [])
      return 0
    | none => do
      let parts := if a.has 'e' then parts.filter (!·.isEmpty) else parts
      parts.zipIdx.forM fun (part, k) => do
        match suffixes.suffix? k with
        | none => refuse 1 "output file suffixes exhausted".toList
        | some suffix => do
          let name := start ++ suffix ++ (a.value? 'S').getD []
          if a.has 'v' then write ("creating file ".toList ++ Quote.always name ++ ['\n'])
          match ← withOpen .replace name fun i => pour i part with
          | .ok _ => return ()
          | .error fault => refuse 1 (Quote.asNeeded name ++ ": ".toList ++ faultText fault)
      return 0

end Utility

end MapAudit.Script
