import MapAudit.Script.Utility.Lines

/-! # Copying in blocks

    `dd` reads a file block by block, perhaps converts what it reads, and writes it in
    blocks of another size. Blocks at the start of the input and of the output can be
    passed over. At the end it says how many blocks there were.
-/

namespace MapAudit.Script

namespace Utility

open Procedure

/-! ## Operands -/

/-- What is asked for about blocks. -/
structure BlockPlan where
  /-- The file that is read. -/
  source : Option Raw := none
  /-- The file that is written. -/
  target : Option Raw := none
  /-- The size of blocks that are read. -/
  inputSize : Nat := 512
  /-- The size of blocks that are written. -/
  outputSize : Nat := 512
  /-- The size of both, if it is one and the same. -/
  size : Option Nat := none
  /-- The size of the records that lines are made to, or that become lines. -/
  recordSize : Nat := 0
  /-- How much of the input is passed over, and whether that is in bytes. -/
  skip : Nat × Bool := (0, false)
  /-- How much of the output is passed over, and whether that is in bytes. -/
  seek : Nat × Bool := (0, false)
  /-- How much is read, and whether that is in bytes. -/
  count : Option (Nat × Bool) := none
  /-- The conversions. -/
  conversions : List String := []
  /-- The flags of the input. -/
  inputFlags : List String := []
  /-- The flags of the output. -/
  outputFlags : List String := []
  /-- What is said at the end. -/
  report : String := "all"

/-- Complains about an operand. -/
def refuseOperand {α : Type} (r : Raw) : Procedure α :=
  refuseUse 1 r

/-- The number that a text says: a product of numbers with suffixes. The answer also says
    whether bytes are meant. -/
def blockNumber? (r : Raw) : Option (Nat × Bool) := do
  let factors ← (r.splitOn 'x').mapM fun part => do
    let digits := part.takeWhile Char.isDigit
    let n ← Raw.toNat? digits
    let scale ← match part.drop digits.length with
      | ['c'] => some 1
      | ['w'] => some 2
      | ['B'] => some 1
      | suffix => scale? suffix
    return n * scale
  return (factors.foldl (· * ·) 1, r.getLast? = some 'B')

/-- The number of an operand, which is not less than `least`. -/
def demandBlockNumber (least : Nat) (r : Raw) : Procedure (Nat × Bool) := do
  match blockNumber? r with
  | some (n, inBytes) =>
    if least ≤ n then return (n, inBytes) else refuse 1 ("invalid number: ".toList ++ Quote.always r)
  | none => refuse 1 ("invalid number: ".toList ++ Quote.always r)

/-- The names in a list that has commas between them. -/
def demandNames (what : String) (known : List String) (r : Raw) : Procedure (List String) :=
  (r.splitOn ',').mapM fun name => do
    let name' := String.ofList name
    if known.contains name' then return name'
    else refuseOperand (what.toList ++ ": ".toList ++ Quote.curly name)

/-- The names of conversions. -/
def conversionNames : List String :=
  ["block", "unblock", "lcase", "ucase", "swab", "sync", "noerror", "notrunc", "nocreat", "excl",
    "fdatasync", "fsync", "sparse"]

/-- The names of flags. -/
def blockFlagNames : List String :=
  ["append", "binary", "cio", "direct", "directory", "dsync", "noatime", "nocache", "noctty",
    "nofollow", "nolinks", "nonblock", "sync", "text", "fullblock", "count_bytes", "skip_bytes",
    "seek_bytes"]

/-- Reads an operand. -/
def BlockPlan.withOperand (p : BlockPlan) (r : Raw) : Procedure BlockPlan := do
  let name := r.takeWhile (· ≠ '=')
  if name.length = r.length then
    refuseOperand ("unrecognized operand ".toList ++ Quote.always r)
  let value := r.drop (name.length + 1)
  match String.ofList name with
  | "if" => return { p with source := some value }
  | "of" => return { p with target := some value }
  | "ibs" => return { p with inputSize := (← demandBlockNumber 1 value).1 }
  | "obs" => return { p with outputSize := (← demandBlockNumber 1 value).1 }
  | "bs" => return { p with size := some (← demandBlockNumber 1 value).1 }
  | "cbs" => return { p with recordSize := (← demandBlockNumber 1 value).1 }
  | "skip" | "iseek" => return { p with skip := ← demandBlockNumber 0 value }
  | "seek" | "oseek" => return { p with seek := ← demandBlockNumber 0 value }
  | "count" => return { p with count := some (← demandBlockNumber 0 value) }
  | "conv" =>
    let names ← demandNames "invalid conversion" conversionNames value
    return { p with conversions := p.conversions ++ names }
  | "iflag" =>
    let names ← demandNames "invalid input flag" blockFlagNames value
    return { p with inputFlags := p.inputFlags ++ names }
  | "oflag" =>
    let names ← demandNames "invalid output flag" blockFlagNames value
    return { p with outputFlags := p.outputFlags ++ names }
  | "status" =>
    let level := String.ofList value
    if ["none", "noxfer", "progress"].contains level then return { p with report := level }
    else refuseOperand ("invalid status level: ".toList ++ Quote.curly value)
  | _ => refuseOperand ("unrecognized operand ".toList ++ Quote.always r)

/-- What all operands ask for together. -/
def BlockPlan.settled (p : BlockPlan) : Procedure BlockPlan := do
  let has (name : String) : Bool := p.conversions.contains name
  if has "block" && has "unblock" then refuse 1 "cannot combine block and unblock".toList
  if has "lcase" && has "ucase" then refuse 1 "cannot combine lcase and ucase".toList
  if has "excl" && has "nocreat" then refuse 1 "cannot combine excl and nocreat".toList
  let p := match p.size with
    | some n => { p with inputSize := n, outputSize := n }
    | none => p
  let p := if p.recordSize = 0 then
      { p with conversions := p.conversions.filter fun r => r ≠ "block" && r ≠ "unblock" }
    else p
  let inBytes (flags : List String) (flag : String) (n : Nat × Bool) : Nat × Bool :=
    (n.1, n.2 || flags.contains flag)
  return { p with
    skip := inBytes p.inputFlags "skip_bytes" p.skip
    seek := inBytes p.outputFlags "seek_bytes" p.seek
    count := p.count.map (inBytes p.inputFlags "count_bytes") }

/-! ## Conversions -/

/-- A conversion while it goes on. -/
structure Converting where
  /-- The column in the present record. -/
  column : Nat := 0
  /-- Blanks that are perhaps at its end. -/
  blanks : Nat := 0
  /-- A byte that waits for the one before which it is written. -/
  single : Option Char := none
  /-- How many lines were too long. -/
  shortened : Nat := 0

/-- Bytes in pairs that are turned round, and the one that is left. -/
def swapped : Option Char → Raw → Raw × Option Char
  | none, a :: b :: rest =>
    let (r, single) := swapped none rest
    (b :: a :: r, single)
  | none, [a] => ([], some a)
  | none, [] => ([], none)
  | some a, b :: rest =>
    let (r, single) := swapped none rest
    (b :: a :: r, single)
  | some a, [] => ([], some a)

/-- Lines made to records. -/
def toRecords (size : Nat) (s : Converting) : Raw → Raw × Converting
  | [] => ([], s)
  | c :: rest =>
    if c = '\n' then
      let (r, s') := toRecords size { s with column := 0 } rest
      (List.replicate (size - s.column) ' ' ++ r, s')
    else
      let isKept := s.column < size
      let shortened := if s.column = size then s.shortened + 1 else s.shortened
      let (r, s') := toRecords size { s with column := s.column + 1, shortened } rest
      (if isKept then c :: r else r, s')

/-- Records made to lines. -/
def toLines (size : Nat) (s : Converting) : Raw → Raw × Converting
  | [] => ([], s)
  | c :: rest =>
    let (before, s) := if size ≤ s.column then (['\n'], { s with column := 0, blanks := 0 })
      else ([], s)
    if c = ' ' then
      let (r, s') := toLines size { s with column := s.column + 1, blanks := s.blanks + 1 } rest
      (before ++ r, s')
    else
      let (r, s') := toLines size { s with column := s.column + 1, blanks := 0 } rest
      (before ++ List.replicate s.blanks ' ' ++ c :: r, s')

namespace BlockPlan

variable (p : BlockPlan)

/-- Whether there is a conversion with a name. -/
def converts (name : String) : Bool :=
  p.conversions.contains name

/-- What a block is converted to. -/
def converted (s : Converting) (r : Raw) : Raw × Converting :=
  let r := if p.converts "ucase" then r.map Char.toUpper
    else if p.converts "lcase" then r.map Char.toLower else r
  let (r, s) := if p.converts "swab" then
      let (r, single) := swapped s.single r
      (r, { s with single })
    else (r, s)
  if p.converts "block" then toRecords p.recordSize s r
  else if p.converts "unblock" then toLines p.recordSize s r
  else (r, s)

/-- What comes after the last block. -/
def conversionEnd (s : Converting) : Raw × Converting :=
  let (r, s) := match s.single with
    | none => ([], s)
    | some c =>
      if p.converts "block" then toRecords p.recordSize s [c]
      else if p.converts "unblock" then toLines p.recordSize s [c]
      else ([c], s)
  let finish := if s.column = 0 then []
    else if p.converts "block" then List.replicate (p.recordSize - s.column) ' '
    else if p.converts "unblock" then ['\n'] else []
  (r ++ finish, s)

/-- Whether blocks are written as they were read. -/
def isDirect : Bool :=
  p.size.isSome && !(["block", "unblock", "lcase", "ucase", "swab"].any p.converts)

end BlockPlan

/-! ## Copying -/

/-- What was done so far. -/
structure BlockTally where
  /-- Whole blocks that were read. -/
  wholeIn : Nat := 0
  /-- Parts of blocks that were read. -/
  partIn : Nat := 0
  /-- Whole blocks that were written. -/
  wholeOut : Nat := 0
  /-- Parts of blocks that were written. -/
  partOut : Nat := 0
  /-- Bytes that were read. -/
  bytesIn : Nat := 0
  /-- Bytes that were written. -/
  bytesOut : Nat := 0
  /-- What is still to be written. -/
  pending : Raw := []
  /-- The state of the conversion. -/
  converting : Converting := {}
  /-- Whether something failed. -/
  hasFailed : Bool := false

/-- A size in words, with a multiple of a power of the base. -/
def sizeInWords (base : Nat) (units : List String) (n : Nat) : Raw :=
  let rec scaled : (power : Nat) → List String → Raw
    | _, [] => Raw.ofNat n
    | power, unit :: rest =>
      let tenths := (n * 10 + power / 2) / power
      let whole := (n + power / 2) / power
      if base ≤ whole && !rest.isEmpty then scaled (power * base) rest
      else if tenths < 100 && power ≠ 1 then
        Raw.ofNat (tenths / 10) ++ '.' :: Raw.ofNat (tenths % 10) ++ ' ' :: unit.toList
      else Raw.ofNat whole ++ ' ' :: unit.toList
  scaled 1 units

/-- What is said at the end. -/
def BlockTally.tell (t : BlockTally) (p : BlockPlan) : Procedure Unit := do
  if p.report = "none" then return ()
  let records (whole part : Nat) (what : String) : Raw :=
    Raw.ofNat whole ++ '+' :: Raw.ofNat part ++ what.toList
  complain (records t.wholeIn t.partIn " records in\n" ++ records t.wholeOut t.partOut " records out\n")
  let shortened := t.converting.shortened
  if shortened ≠ 0 then
    complain (Raw.ofNat shortened
      ++ (if shortened = 1 then " truncated record\n" else " truncated records\n").toList)
  if p.report ≠ "noxfer" then
    let n := t.bytesOut
    let decimal (n : Nat) : Raw := sizeInWords 1000 ["B", "kB", "MB", "GB", "TB"] n
    let binary (n : Nat) : Raw := sizeInWords 1024 ["B", "KiB", "MiB", "GiB", "TiB"] n
    let sizes : Raw := if n < 1000 then []
      else if n < 1024 then " (".toList ++ decimal n ++ [')']
      else " (".toList ++ decimal n ++ ", ".toList ++ binary n ++ [')']
    complain (Raw.ofNat n ++ (if n = 1 then " byte" else " bytes").toList ++ sizes
      ++ " copied, 0.0001 s, ".toList ++ decimal (n * 10000) ++ "/s\n".toList)

/-- Reads a block, perhaps in several portions until it is whole. -/
def readBlock (i size : Nat) (isWhole : Bool) : Procedure (Except FileFault Raw) :=
  stepwise ([] : Raw) fun done => do
    match ← pull i (size - done.length) with
    | .error fault => return .done (if done.isEmpty then .error fault else .ok done)
    | .ok r =>
      let done := done ++ r
      if isWhole && !r.isEmpty && done.length < size then return .more done
      else return .done (.ok done)

/-- Passes over bytes of the input. The answer says whether there were so many. -/
def passOver (i count : Nat) : Procedure Bool := do
  let m := (← get).machine
  match m.channel i with
  | .file place offset access => do
    let size := ((m.fileAt? place).map (·.content.size)).getD 0
    onMachine (·.setChannel i (.file place (offset + count) access))
    return offset + count ≤ size
  | _ =>
    stepwise count fun left => do
      if left = 0 then return .done true
      match ← pull i (min left portionSize) with
      | .error _ | .ok [] => return .done false
      | .ok r => return .more (left - r.length)

/-- The channel that blocks are written to, at the place where they go. -/
def openTarget (p : BlockPlan) : Procedure Nat := do
  let start := p.seek.1 * if p.seek.2 then 1 else p.outputSize
  let opened : Except FileFault Nat ← match p.target with
    | none => match ← channelOf? 1 with
      | some i => pure (.ok i)
      | none => pure (.error FileFault.noStream)
    | some file => do
      let isThere := (← find file).toOption.isSome
      if isThere && p.converts "excl" then pure (.error .alreadyExists)
      else if !isThere && p.converts "nocreat" then pure (.error .notFound)
      else openFile (if p.outputFlags.contains "append" then .append
        else if p.converts "notrunc" || 0 < start then .both else .replace) file
  match opened with
  | .error fault => do
    let name := p.target.getD "standard output".toList
    refuse 1 ("failed to open ".toList ++ Quote.always name ++ ": ".toList ++ faultText fault)
  | .ok i => do
    hold i
    match (← get).machine.channel i with
    | .file place offset access =>
      if 0 < start then
        onMachine (·.setChannel i (.file place (offset + start) access))
        match p.target.isSome && !p.converts "notrunc", (← get).machine.fileAt? place with
        | true, some f =>
          let content := f.content.extract 0 start
          let gap : ByteArray := ⟨Array.replicate (start - content.size) 0⟩
          onMachine fun m => m.reviseAt place (m.rewritten f (content ++ gap))
        | _, _ => pure ()
    | _ =>
      if 0 < start then
        let _ ← pour i (List.replicate start '\x00')
    return i

/-- Writes what is pending in whole blocks, and at the end also the rest. -/
def writeBlocks (p : BlockPlan) (i : Nat) (isLast : Bool) (t : BlockTally) : Procedure BlockTally :=
  stepwise t fun t => do
    let size := p.outputSize
    if t.pending.isEmpty || t.hasFailed || (t.pending.length < size && !isLast) then return .done t
    let block := t.pending.take size
    match ← pour i block with
    | some fault => do
      let name := p.target.getD "standard output".toList
      tell ("error writing ".toList ++ Quote.always name ++ ": ".toList ++ fault.text)
      return .done { t with hasFailed := true }
    | none =>
      let t := { t with pending := t.pending.drop size, bytesOut := t.bytesOut + block.length }
      return .more (if block.length = size then { t with wholeOut := t.wholeOut + 1 }
        else { t with partOut := t.partOut + 1 })

/-- Copies a file in blocks. -/
def dd (arguments : List Raw) : Procedure Nat := do
  let a ← readArguments bareOptions arguments
  let p ← a.operands.foldlM BlockPlan.withOperand {}
  let p ← p.settled
  let source := p.source.getD "standard input".toList
  let opened : Except FileFault Nat ← match p.source with
    | some file => openFile .read file
    | none => match ← channelOf? 0 with
      | some i => pure (.ok i)
      | none => pure (.error .noStream)
  match opened with
  | .error fault =>
    refuse 1 ("failed to open ".toList ++ Quote.always source ++ ": ".toList ++ faultText fault)
  | .ok i => do
    hold i
    let o ← openTarget p
    let skipped := p.skip.1 * if p.skip.2 then 1 else p.inputSize
    if 0 < skipped then
      if !(← passOver i skipped) && p.report ≠ "none" then
        tell (Quote.asNeeded source ++ ": cannot skip to specified offset".toList)
    let isWhole := p.inputFlags.contains "fullblock"
    let t ← stepwise ({} : BlockTally) fun t => do
      let blocks := t.wholeIn + t.partIn
      let size := match p.count with
        | none => p.inputSize
        | some (n, true) => min p.inputSize (n - t.bytesIn)
        | some (n, false) => if blocks < n then p.inputSize else 0
      if size = 0 || t.hasFailed then return .done t
      match ← readBlock i size isWhole with
      | .error fault => do
        tell ("error reading ".toList ++ Quote.always source ++ ": ".toList ++ faultText fault)
        return .done { t with hasFailed := true }
      | .ok [] => return .done t
      | .ok r => do
        let t := { t with bytesIn := t.bytesIn + r.length }
        let t := if r.length < p.inputSize then { t with partIn := t.partIn + 1 }
          else { t with wholeIn := t.wholeIn + 1 }
        let filler := if p.converts "block" || p.converts "unblock" then ' ' else '\x00'
        let r := if p.converts "sync" then r ++ List.replicate (p.inputSize - r.length) filler else r
        let (r, converting) := p.converted t.converting r
        let t := { t with pending := t.pending ++ r, converting }
        return .more (← writeBlocks p o p.isDirect t)
    let (r, converting) := p.conversionEnd t.converting
    let t ← writeBlocks p o true { t with pending := t.pending ++ r, converting }
    letGo i
    letGo o
    t.tell p
    return if t.hasFailed then 1 else 0

end Utility

end MapAudit.Script
