import MapAudit.Script.Utility.Sorting

/-! # Comparing files

    `comm` compares the lines of files that are sorted, and `cmp` the bytes of any
    files.
-/

namespace MapAudit.Script

namespace Utility

open Procedure

/-! ## Lines of sorted files -/

/-- The options of `comm`. -/
def commOptions : OptionTable where
  letters := "123z"
  names := [("check-order", 'c'), ("nocheck-order", 'n'), ("output-delimiter=", 'O'),
    ("total", 'T'), ("zero-terminated", 'z')]

/-- What `comm` finds while it compares lines. -/
inductive CommFinding where
  /-- A line that is in the first file, in the second one or in both. -/
  | line (number : Nat) (l : Raw)
  /-- The lines of one of the files are not sorted. -/
  | disorder (number : Nat)

/-- A file while its lines are compared. -/
structure CommFeed where
  /-- The line before the present one. -/
  before : Option Raw
  /-- The present line. -/
  present : Option Raw
  /-- The lines after it. -/
  rest : List Raw
  /-- Whether it is known that they are not sorted. -/
  isDisordered : Bool

/-- The feed of some lines. -/
def CommFeed.ofLines (lines : List Raw) : CommFeed where
  before := none
  present := lines.head?
  rest := lines.drop 1
  isDisordered := false

/-- Goes on to the next line, and to what is found then if the order `isChecked`. At the
    end the last two lines are looked at once more. -/
def CommFeed.next (isChecked : Bool) (number : Nat) (f : CommFeed) : CommFeed × List CommFinding :=
  let isAfter (a b : Option Raw) : Bool := match a, b with
    | some a, some b => compareBytes a b = .gt
    | _, _ => false
  let isWrong := isChecked && !f.isDisordered && match f.rest with
    | [] => isAfter f.before f.present
    | l :: _ => isAfter f.present (some l)
  ({ before := f.present, present := f.rest.head?, rest := f.rest.drop 1
     isDisordered := f.isDisordered || isWrong },
    if isWrong then [.disorder number] else [])

/-- Compares at most `n` lines. The order is checked always or never, or only once a line
    was not in both files. -/
def compareLines (check : Option Bool) : (n : Nat) → (isChecked : Bool) → (a b : CommFeed) →
    List CommFinding
  | 0, _, _, _ => []
  | n + 1, isChecked, a, b =>
    let order : Option (Ordering × Raw) := match a.present, b.present with
      | none, none => none
      | none, some y => some (.gt, y)
      | some x, none => some (.lt, x)
      | some x, some y => some (compareBytes x y, if compareBytes x y = .lt then x else y)
    match order with
    | none => []
    | some (order, l) =>
      let isChecked := check.getD (isChecked || order ≠ .eq)
      let (a, inFirst) := if order = .gt then (a, []) else a.next isChecked 1
      let (b, inSecond) := if order = .lt then (b, []) else b.next isChecked 2
      let number := match order with
        | .lt => 1
        | .gt => 2
        | .eq => 3
      .line number l :: inFirst ++ inSecond ++ compareLines check n isChecked a b

/-- Reads a file that has to be there. -/
def demandFile (status : Nat) (file : Raw) : Procedure Raw := do
  match ← readOperand file with
  | .ok r => return r
  | .error fault => refuse status (Quote.asNeeded file ++ ": " ++ faultText fault)

/-- What stands between columns of lines. -/
def columnMark (a : Arguments) : Procedure Raw := do
  match (a.values 'O').eraseDups with
  | [] => return ['\t']
  | [r] => return if r.isEmpty then ['\x00'] else r
  | _ => refuse 1 "multiple output delimiters specified".toList

/-- Compares the lines of two sorted files. -/
def comm (arguments : List Raw) : Procedure Nat := do
  let a ← readArguments commOptions arguments
  let between ← columnMark a
  match a.operands with
  | [] => refuseUse 1 "missing operand"
  | [r] => refuseUse 1 ("missing operand after " ++ Quote.curly r)
  | first :: second :: _ => do
    refuseExtra 1 2 a
    let finish := if a.has 'z' then '\x00' else '\n'
    let xs := partsOf finish (← demandFile 1 first)
    let ys := partsOf finish (← demandFile 1 second)
    let isShown (k : Nat) : Bool := !a.has (Char.ofNat ('0'.toNat + k))
    let check : Option Bool := (a.lastOf? "cn").map (· = 'c')
    let findings := compareLines check (xs.length + ys.length) (check.getD false) (.ofLines xs)
      (.ofLines ys)
    findings.forM fun finding => do
      match finding with
      | .line k l =>
        if isShown k then
          let columns := ((List.range' 1 (k - 1)).filter isShown).length
          write ((List.replicate columns between).flatten ++ l ++ [finish])
      | .disorder k => do
        flush
        tell ("file ".toList ++ Raw.ofNat k ++ " is not in sorted order".toList)
        if check = some true then quit 1
    if a.has 'T' then
      let isOf (k : Nat) (finding : CommFinding) : Bool := match finding with
        | .line n _ => n = k
        | .disorder _ => false
      let total (k : Nat) : Raw :=
        Raw.ofNat (findings.countP fun finding => isOf k finding) ++ between
      write (total 1 ++ total 2 ++ total 3 ++ "total".toList ++ [finish])
    if findings.any (· matches .disorder _) then
      flush
      refuse 1 "input is not in sorted order".toList
    return 0

/-! ## Bytes of files -/

/-- The options of `cmp`. -/
def cmpOptions : OptionTable where
  letters := "bci:ln:sv"
  names := [("print-bytes", 'b'), ("print-chars", 'b'), ("ignore-initial=", 'i'), ("verbose", 'l'),
    ("bytes=", 'n'), ("quiet", 's'), ("silent", 's')]
  failure := 2
  hint name := name ++ ": " ++ helpHint name

/-- Complains about how `cmp` was called. -/
def refuseComparison {α : Type} (r : Raw) : Procedure α := do
  tell r
  complain (cmpOptions.hint (← get).name)
  quit 2

/-- Reads a number of bytes: in hexadecimal digits behind "0x", in octal digits behind
    a zero, or in decimal digits, and perhaps with a suffix. -/
def byteCount? (r : Raw) : Option Nat :=
  let withScale (n : Nat) (suffix : Raw) : Option Nat :=
    if suffix = ['b'] then none else (scale? suffix).map (n * ·)
  match r with
  | '0' :: 'x' :: rest =>
    let digits := rest.takeWhile Raw.isHex
    if digits.isEmpty then none else withScale (Raw.hexValue digits) (rest.drop digits.length)
  | '0' :: rest =>
    let digits := rest.takeWhile Raw.isOctal
    withScale (Raw.octalValue digits) (rest.drop digits.length)
  | r =>
    let digits := r.takeWhile Char.isDigit
    if digits.isEmpty && r.isEmpty then none
    else withScale ((Raw.toNat? digits).getD 1) (r.drop digits.length)

/-- How many bytes an argument says, for what it is meant. -/
def demandBytes (what : String) (r : Raw) : Procedure Nat := do
  match byteCount? r with
  | some n => return n
  | none => refuseComparison ("invalid --" ++ what.toList ++ " value '".toList ++ r ++ ['\x27'])

/-- How many bytes are left out at the start of two files. -/
def demandSkips (r : Raw) : Procedure (Nat × Nat) := do
  let first := r.takeWhile (· ≠ ':')
  match r.drop first.length with
  | [] => do
    let n ← demandBytes "ignore-initial" first
    return (n, n)
  | rest => return (← demandBytes "ignore-initial" first, ← demandBytes "ignore-initial" (rest.drop 1))

/-- The octal digits of a byte. -/
def octalByte (c : Char) : Raw :=
  let digits := Nat.toDigits 8 c.toNat
  List.replicate (3 - digits.length) ' ' ++ digits

/-- A byte as it is shown behind its number. -/
def shownByte (c : Char) : Raw :=
  { numbersAll := false, numbersFilled := false, squeezes := false, showsEnds := false,
    showsTabs := true, showsHidden := true : Rendering }.character c

/-- Two bytes as they are shown where files differ; the first one with blanks behind
    it, if it `isWide`. -/
def shownBytes (named isWide : Bool) (c d : Char) : Raw :=
  let blanks (r : Raw) : Raw := List.replicate (4 - r.length) ' '
  if named then
    let first := shownByte c
    octalByte c ++ ' ' :: first ++ (if isWide then blanks first else []) ++ ' ' :: octalByte d
      ++ ' ' :: shownByte d
  else octalByte c ++ ' ' :: octalByte d

/-- The number of the first byte that two texts do not have in common. -/
def firstDifference : (place : Nat) → Raw → Raw → Option Nat
  | place, a :: as, b :: bs => if a = b then firstDifference (place + 1) as bs else some place
  | _, _, _ => none

/-- A file whose bytes are compared. -/
structure Compared where
  /-- The bytes. -/
  content : Raw
  /-- How many there are, if it is known before they are read. -/
  size : Option Nat

/-- Makes sure that a file is there whose bytes are to be compared. -/
def demandCompared (isQuiet : Bool) (file : Raw) : Procedure Unit := do
  match ← openOperand file with
  | .ok i => letGo i
  | .error .isDirectory => return ()
  | .error fault => if isQuiet then quit 2 else refuse 2 (file ++ ": " ++ faultText fault)

/-- Reads a file whose bytes are compared, without the first ones. -/
def readCompared (skip : Nat) (file : Raw) : Procedure Compared := do
  let size ← knownSize? file
  match ← readOperand file with
  | .ok r => return { content := r.drop skip, size := size.map (· - skip) }
  | .error fault => refuse 2 (file ++ ": " ++ faultText fault)

/-- Says where the shorter one of two files ended, whose bytes are those of the other
    one. -/
def tellShorter (inLines : Bool) (file content : Raw) : Procedure Unit := do
  let place : Raw :=
    if content.isEmpty then " which is empty"
    else
      let lines := content.count '\n'
      " after byte ".toList ++ Raw.ofNat content.length ++
        (if !inLines then []
        else if content.getLast? = some '\n' then ", line ".toList ++ Raw.ofNat lines
        else ", in line ".toList ++ Raw.ofNat (lines + 1))
  tell ("EOF on " ++ file ++ place)

/-- Compares two files byte by byte. -/
def cmp (arguments : List Raw) : Procedure Nat := do
  let a ← readArguments cmpOptions arguments
  let skips ← match a.value? 'i' with
    | none => pure (0, 0)
    | some r => demandSkips r
  let limit ← match a.value? 'n' with
    | none => pure none
    | some r => some <$> demandBytes "bytes" r
  let isQuiet := a.has 's'
  if isQuiet && a.has 'l' then refuseComparison "options -l and -s are incompatible"
  match a.operands with
  | [] => refuseComparison ("missing operand after " ++ Quote.always
      ((arguments.getLast?).getD (← get).name))
  | first :: rest => do
    let second := rest.headD ['-']
    let given ← ((rest.drop 1).take 2).mapM (demandBytes "ignore-initial")
    match rest.drop 3 with
    | [] => pure ()
    | r :: _ => refuseComparison ("extra operand '" ++ r ++ ['\x27'])
    let skips : Nat × Nat := ((given[0]?).getD skips.1, (given[1]?).getD skips.2)
    demandCompared isQuiet first
    if first = second && skips.1 = skips.2 then return 0
    demandCompared isQuiet second
    let x ← readCompared skips.1 first
    let y ← readCompared skips.2 second
    let within (r : Raw) : Raw := match limit with
      | some n => r.take n
      | none => r
    let r := within x.content
    let s := within y.content
    let shorter := min r.length s.length
    let difference := firstDifference 0 r s
    if isQuiet then return if difference.isNone && r.length = s.length then 0 else 1
    let tellEnd : Procedure Unit := do
      if r.length ≠ s.length then
        if r.length < s.length then tellShorter (!a.has 'l') first r
        else tellShorter (!a.has 'l') second s
    let isNamed := a.has 'b' || a.has 'c'
    match difference with
    | none => do
      tellEnd
      return if r.length = s.length then 0 else 1
    | some i => do
      if a.has 'l' then
        let greatest := [limit, x.size, y.size].foldl (fun least size => match size with
          | some n => min least n
          | none => least) 9223372036854775807
        let width := (Raw.ofNat greatest).length
        let pairs := ((r.zip s).take shorter).zipIdx.filter fun ((c, d), _) => c ≠ d
        write (pairs.flatMap fun ((c, d), i) =>
          padded width (i + 1) ++ ' ' :: shownBytes isNamed true c d ++ ['\n'])
        tellEnd
      else
        let line := (r.take i).count '\n' + 1
        let shown : Raw := match r[i]?, s[i]? with
          | some c, some d => if isNamed then " is ".toList ++ shownBytes true false c d else []
          | _, _ => []
        write (first ++ ' ' :: second ++ " differ: byte ".toList ++ Raw.ofNat (i + 1)
          ++ ", line ".toList ++ Raw.ofNat line ++ shown ++ ['\n'])
      return 1

end Utility

end MapAudit.Script
