import MapAudit.Script.Print.Decimal
import MapAudit.Script.Utility.Lines

/-! # Dumps

    A dump shows the bytes of files in rows. Before each row stands the address of its
    first byte. A row can be shown in several ways, one below the other: as characters,
    or as numbers that several bytes make together. The widest way decides how wide the
    columns of the others are. Rows that are like the one before are left out.
-/

namespace MapAudit.Script

namespace Utility

open Procedure

/-! ## Ways of showing bytes -/

/-- How bytes are shown. -/
inductive DumpForm where
  /-- As characters with names, without regard to the highest bit. -/
  | names
  /-- As characters. -/
  | characters
  /-- As whole numbers, perhaps below zero. -/
  | signed
  /-- As whole numbers in decimal digits. -/
  | unsigned
  /-- As whole numbers in octal digits. -/
  | octal
  /-- As whole numbers in hexadecimal digits. -/
  | hexadecimal
  /-- As numbers with fractions. -/
  | real
  deriving DecidableEq, Repr

/-- **Way** of showing a row. -/
structure DumpWay where
  /-- How bytes are shown. -/
  form : DumpForm
  /-- How many bytes are shown together. -/
  size : Nat
  /-- Whether the row is also shown as a text behind. -/
  hasText : Bool := false

namespace DumpWay

/-- How many characters are needed, without a blank before them. -/
def width (w : DumpWay) : Nat :=
  match w.form, w.size with
  | .names, _ | .characters, _ => 3
  | .octal, 1 => 3
  | .octal, 2 => 6
  | .octal, 4 => 11
  | .octal, _ => 22
  | .hexadecimal, n => 2 * n
  | .unsigned, 1 => 3
  | .unsigned, 2 => 5
  | .unsigned, 4 => 10
  | .unsigned, _ => 20
  | .signed, 1 => 4
  | .signed, 2 => 6
  | .signed, 4 => 11
  | .signed, _ => 20
  | .real, 4 => 15
  | .real, _ => 24

end DumpWay

/-- The names of characters that cannot be seen. -/
def hiddenNames : List String :=
  ["nul", "soh", "stx", "etx", "eot", "enq", "ack", "bel", "bs", "ht", "nl", "vt", "ff", "cr", "so",
    "si", "dle", "dc1", "dc2", "dc3", "dc4", "nak", "syn", "etb", "can", "em", "sub", "esc", "fs",
    "gs", "rs", "us", "sp"]

/-- A byte as a character with a name. -/
def namedCharacter (c : Char) : Raw :=
  let n := c.toNat % 128
  if n = 127 then "del".toList
  else match hiddenNames[n]? with
    | some name => name.toList
    | none => [Char.ofNat n]

/-- A number in digits of a base, at least so many. -/
def digitsOf (base width n : Nat) : Raw :=
  let digits := Nat.toDigits base n
  List.replicate (width - digits.length) '0' ++ digits

/-- A byte as a character. -/
def dumpedCharacter (c : Char) : Raw :=
  match c.toNat with
  | 0 => "\\0".toList
  | 7 => "\\a".toList
  | 8 => "\\b".toList
  | 9 => "\\t".toList
  | 10 => "\\n".toList
  | 11 => "\\v".toList
  | 12 => "\\f".toList
  | 13 => "\\r".toList
  | n => if 32 ≤ n && n < 127 then [c] else digitsOf 8 3 n

/-- The format of numbers with fractions that so many bytes make: the precision, and how
    many bits the part after the leading digit has. -/
def realFormat (size : Nat) : Precision × Nat :=
  if size = 4 then ({ digits := 24, lowest := -149, limit := 128 }, 23) else (.double, 52)

/-- The number with a fraction that bits stand for. -/
def realOfBits (size n : Nat) : Numeral :=
  let (p, bits) := realFormat size
  let part := n % (1 <<< bits)
  let exponents := 1 <<< (8 * size - 1 - bits)
  let e := (n >>> bits) % exponents
  let isNegative := (n >>> (8 * size - 1)) = 1
  if e = exponents - 1 then if part = 0 then .infinite isNegative else .undefined
  else
    let m := if e = 0 then part else part + (1 <<< bits)
    .finite isNegative (Fraction.shift ⟨m, 1⟩ (p.lowest + (max e 1 - 1 : Nat)))

/-- The shortest numeral of a number that can be told from all others, of so many digits
    at least, and at most `n` more. -/
def shortestNumeral (p : Precision) (f : Fraction) : (n digits : Nat) → Raw
  | 0, digits => f.general 'e' digits false
  | n + 1, digits =>
    let r := f.general 'e' digits false
    let isEqual (g : Fraction) : Bool := g.top * f.bottom = f.top * g.bottom
    match (Numeral.read? r).map fun (read : Numeral × Raw) => read.1.rounded p with
    | some (Numeral.finite _ g) => if isEqual g then r else shortestNumeral p f n (digits + 1)
    | _ => shortestNumeral p f n (digits + 1)

/-- The numeral of the number with a fraction that bits stand for. -/
def realNumeral (size n : Nat) : Raw :=
  let (p, bits) := realFormat size
  let sign (isNegative : Bool) : Raw := if isNegative then ['-'] else []
  match realOfBits size n with
  | .finite isNegative f =>
    let least := if (n >>> bits) % (1 <<< (8 * size - 1 - bits)) = 0 then 1
      else if size = 4 then 6 else 15
    sign isNegative ++ if f.top = 0 then ['0'] else shortestNumeral p f 17 least
  | .infinite isNegative => sign isNegative ++ "inf".toList
  | .undefined => sign ((n >>> (8 * size - 1)) = 1) ++ "nan".toList

/-- The number that bytes stand for, the lowest first. -/
def littleNumber (bytes : Raw) : Nat :=
  bytes.foldr (fun c n => 256 * n + c.toNat) 0

/-- Bytes that are shown together. -/
def DumpWay.shown (w : DumpWay) (bytes : Raw) : Raw :=
  let n := littleNumber bytes
  match w.form with
  | .names => namedCharacter (bytes.headD '\x00')
  | .characters => dumpedCharacter (bytes.headD '\x00')
  | .signed =>
    let limit := 1 <<< (8 * w.size - 1)
    Raw.ofInt (if n < limit then n else (n : Int) - 2 * limit)
  | .unsigned => Raw.ofNat n
  | .octal => digitsOf 8 w.width n
  | .hexadecimal => digitsOf 16 w.width n
  | .real => realNumeral w.size n

/-! ## Rows -/

/-- **Dump**: how files are shown. -/
structure Dump where
  /-- The base of addresses, if they are shown. -/
  addressBase : Option Nat
  /-- The ways in which rows are shown. -/
  ways : List DumpWay
  /-- How many bytes a row has. -/
  width : Nat
  /-- Whether rows that are like the one before are shown. -/
  showsRepeats : Bool
  /-- Whether the bytes of a number stand with the highest first. -/
  highestFirst : Bool
  /-- What is added to addresses to show them once more. -/
  label : Option Nat

namespace Dump

/-- How many digits an address has. -/
def addressWidth (d : Dump) : Nat :=
  match d.addressBase with
  | none => 0
  | some 16 => 6
  | some _ => 7

/-- An address as it is shown. -/
def address (d : Dump) (n : Nat) : Raw :=
  match d.addressBase with
  | none => []
  | some base =>
    let second := match d.label with
      | some more => " (".toList ++ digitsOf base d.addressWidth (n + more) ++ [')']
      | none => []
    digitsOf base d.addressWidth n ++ second

/-- The smallest number of bytes that all ways can show whole. -/
def unit (d : Dump) : Nat :=
  d.ways.foldl (fun n w => Nat.lcm n w.size) 1

/-- The parts of a text, each of so many bytes, at most `n` of them. -/
def parts (size : Nat) : (n : Nat) → Raw → List Raw
  | 0, _ => []
  | n + 1, r => if r.isEmpty then [] else r.take size :: parts size n (r.drop size)

/-- A byte as it is shown in the text behind a row. -/
def plainCharacter (c : Char) : Char :=
  if ' ' ≤ c && c ≤ '~' then c else '.'

/-- A row shown in one way. What the columns are wider than needed is spread over them.
    Bytes that are missing from a number count as zero. -/
def line (d : Dump) (w : DumpWay) (r : Raw) : Raw :=
  let count := d.width / w.size
  let needed (w : DumpWay) : Nat := (w.width + 1) * (d.width / w.size)
  let all := d.ways.foldl (fun n w => max n (needed w)) 0
  let spare := all - w.width * count
  let share (i : Nat) : Nat := spare * (count - i) / count
  let fields := (parts w.size count r).zipIdx.flatMap fun (bytes, i) =>
    let bytes := bytes ++ List.replicate (w.size - bytes.length) '\x00'
    let shown := w.shown (if d.highestFirst then bytes.reverse else bytes)
    List.replicate (w.width + share i - share (i + 1) - shown.length) ' ' ++ shown
  if w.hasText then
    let missing := (d.width - r.length) / w.size
    fields ++ List.replicate (missing * w.width + spare * missing / count) ' '
      ++ "  >".toList ++ r.map plainCharacter ++ ['<']
  else fields

/-- A row shown in all ways, with its address. -/
def row (d : Dump) (address : Nat) (r : Raw) : Raw :=
  (d.ways.zipIdx.flatMap fun (w, i) =>
    (if i = 0 then d.address address else List.replicate d.addressWidth ' ') ++ d.line w r ++ ['\n'])

/-- The rows of a text, of which at most `n` are looked at. The row before is given, and
    whether it was left out. -/
def rows (d : Dump) : (n : Nat) → (address : Nat) → (before : Option Raw) → (isLeftOut : Bool) →
    Raw → Raw
  | 0, _, _, _, _ => []
  | n + 1, address, before, isLeftOut, r =>
    let here := r.take d.width
    if here.isEmpty then []
    else if here.length < d.width then d.row address here
    else
      let next := rows d n (address + d.width) (some here)
      if !d.showsRepeats && before = some here then
        (if isLeftOut then [] else ['*', '\n']) ++ next true (r.drop d.width)
      else d.row address here ++ next false (r.drop d.width)

/-- A text as it is shown, from an address on. -/
def shown (d : Dump) (address : Nat) (r : Raw) : Raw :=
  let last := d.address (address + r.length)
  d.rows (r.length + 1) address none false r ++ if last.isEmpty then [] else last ++ ['\n']

end Dump

/-! ## Arguments -/

/-- The options of `od`. -/
def odOptions : OptionTable where
  letters := "A:aBbcDdeFfHhIij:LlN:OoS:st:vw::Xx"
  names := [("skip-bytes=", 'j'), ("address-radix=", 'A'), ("read-bytes=", 'N'), ("format=", 't'),
    ("output-duplicates", 'v'), ("strings?", 'S'), ("traditional", 'T'), ("width?", 'w'),
    ("endian=", 'E')]

/-- The way that a letter stands for, if it does for one. -/
def wayOfLetter? (c : Char) : Option DumpWay :=
  match c with
  | 'a' => some { form := .names, size := 1 }
  | 'b' => some { form := .octal, size := 1 }
  | 'c' => some { form := .characters, size := 1 }
  | 'D' => some { form := .unsigned, size := 4 }
  | 'd' => some { form := .unsigned, size := 2 }
  | 'e' | 'F' => some { form := .real, size := 8 }
  | 'f' => some { form := .real, size := 4 }
  | 'H' | 'X' => some { form := .hexadecimal, size := 4 }
  | 'h' | 'x' => some { form := .hexadecimal, size := 2 }
  | 'I' | 'L' | 'l' => some { form := .signed, size := 8 }
  | 'i' => some { form := .signed, size := 4 }
  | 'O' => some { form := .octal, size := 4 }
  | 'B' | 'o' => some { form := .octal, size := 2 }
  | 's' => some { form := .signed, size := 2 }
  | _ => none

/-- The form that a letter stands for in a type. -/
def formOfLetter? (c : Char) : Option DumpForm :=
  match c with
  | 'd' => some .signed
  | 'o' => some .octal
  | 'u' => some .unsigned
  | 'x' => some .hexadecimal
  | 'f' => some .real
  | _ => none

/-- Refuses a type of numbers that there is none of. -/
def refuseSize {α : Type} (whole : Raw) (form : DumpForm) (size : Raw) : Procedure α :=
  refuse 1 ("invalid type string ".toList ++ Quote.curly whole ++ ";\nthis system doesn't provide a ".toList
    ++ size ++ (if form = .real then "-byte floating point type" else "-byte integral type").toList)

/-- Reads the size of numbers of a form, and gives the rest. -/
def readSize (whole : Raw) (form : DumpForm) (r : Raw) : Procedure (Nat × Raw) := do
  let digits := r.takeWhile Char.isDigit
  let sizes := if form = .real then [4, 8] else [1, 2, 4, 8]
  match form, r with
  | .real, 'F' :: rest => return (4, rest)
  | .real, 'D' :: rest => return (8, rest)
  | .real, _ =>
    if digits.isEmpty then return (8, r)
    let n := (Raw.toNat? digits).getD 0
    if sizes.contains n then return (n, r.drop digits.length)
    refuseSize whole form digits
  | _, 'C' :: rest => return (1, rest)
  | _, 'S' :: rest => return (2, rest)
  | _, 'I' :: rest => return (4, rest)
  | _, 'L' :: rest => return (8, rest)
  | _, _ =>
    if digits.isEmpty then return (4, r)
    let n := (Raw.toNat? digits).getD 0
    if sizes.contains n then return (n, r.drop digits.length)
    refuseSize whole form digits

/-- Reads types, at most `n` of them. -/
def readWays (whole : Raw) : (n : Nat) → Raw → Procedure (List DumpWay)
  | 0, _ | _, [] => return []
  | n + 1, c :: rest => do
    let (way, rest) ← match c, formOfLetter? c with
      | 'a', _ => pure (({ form := .names, size := 1 } : DumpWay), rest)
      | 'c', _ => pure (({ form := .characters, size := 1 } : DumpWay), rest)
      | _, some form => do
        let (size, rest) ← readSize whole form rest
        pure (({ form, size } : DumpWay), rest)
      | c, none => refuse 1 ("invalid character '" ++ [c] ++ "' in type string ".toList ++ Quote.curly whole)
    match rest with
    | 'z' :: rest => return { way with hasText := true } :: (← readWays whole n rest)
    | rest => return way :: (← readWays whole n rest)

/-- The number of bytes that the value of an option says. -/
def demandAmount (option : Char) (scaled : Bool) (r : Raw) : Procedure Nat := do
  let named : Raw := ['-', option] ++ " argument '".toList ++ r ++ ['\x27']
  let (digits, value) := match r with
    | '0' :: 'x' :: rest | '0' :: 'X' :: rest =>
      let digits := rest.takeWhile Raw.isHex
      (2 + digits.length, Raw.hexValue digits)
    | '0' :: rest =>
      let digits := rest.takeWhile Raw.isOctal
      (1 + digits.length, Raw.octalValue digits)
    | r =>
      let digits := r.takeWhile Char.isDigit
      (digits.length, (Raw.toNat? digits).getD 0)
  if digits = 0 then refuse 1 ("invalid ".toList ++ named)
  let suffix := r.drop digits
  match if scaled || suffix.isEmpty then scale? suffix else none with
  | none => refuse 1 ("invalid suffix in ".toList ++ named)
  | some scale =>
    if 18446744073709551615 < value * scale then refuse 1 (named ++ " too large".toList)
    return value * scale

/-- The number of bytes that an operand says which stands where a file could, in octal or
    in hexadecimal digits. -/
def offset? (r : Raw) : Option Nat :=
  let r := if r.head? = some '+' then r.drop 1 else r
  let (isHexadecimal, r) := match r with
    | '0' :: 'x' :: r | '0' :: 'X' :: r => (true, r)
    | r => (false, r)
  let digits := r.takeWhile (if isHexadecimal then Raw.isHex else Raw.isOctal)
  let value := if isHexadecimal then Raw.hexValue digits else Raw.octalValue digits
  match r.drop digits.length with
  | [] => if digits.isEmpty then none else some value
  | ['b'] => if digits.isEmpty then none else some (value * 512)
  | ['B'] => if digits.isEmpty then none else some (value * 1024)
  | _ => none

/-- The files among operands, and what is left out at their start. The last operand may
    say that, and in the traditional manner also a label. -/
def dumpedFiles (isTraditional : Bool) (operands : List Raw) :
    Procedure (List Raw × Option Nat × Option Nat) := do
  let isOffset (r : Raw) : Bool := isTraditional || r.head? = some '+'
  match operands with
  | [r] =>
    if isOffset r then
      if let some n := offset? r then return ([], some n, none)
    return ([r], none, none)
  | [first, r] =>
    if isOffset r || r.head?.any Char.isDigit then
      if isTraditional then
        if let (some n, some label) := (offset? first, offset? r) then return ([], some n, some label)
      if let some n := offset? r then return ([first], some n, none)
    return ([first, r], none, none)
  | [first, second, r] =>
    if isTraditional then
      if let (some n, some label) := (offset? second, offset? r) then
        return ([first], some n, some label)
    return ([first, second, r], none, none)
  | operands => return (operands, none, none)

/-! ## Reading and writing -/

/-- What is read from files one after the other. -/
structure Gathered where
  /-- What was read. -/
  content : Raw
  /-- How much had been read when a file could not be that came after one which could. -/
  fault : Option Nat
  /-- Whether any file could be opened. -/
  hasOpened : Bool
  /-- Whether all could be read. -/
  isWhole : Bool

/-- Reads files one after the other, but no more than `limit` bytes. -/
def gather (limit : Option Nat) (files : List Raw) : Procedure Gathered :=
  (filesOf files).foldlM (fun g file => do
    if g.hasOpened && limit.any (· ≤ g.content.length) then return g
    let read (i : Nat) : Procedure (Except FileFault Raw) := match limit with
      | none => drain i
      | some limit => do return .ok (← pullAll i (limit - g.content.length))
    let answer ← match ← withOperand file read with
      | .ok answer => pure answer
      | .error fault => pure (.error fault)
    match answer with
    | .ok r => return { g with content := g.content ++ r, hasOpened := true }
    | .error fault => do
      if fault = .noStream then tell "'standard input': Bad file descriptor" else tellFile file fault
      let hasOpened := g.hasOpened || fault = .isDirectory || fault = .noStream
      return { g with
        fault := if hasOpened then some (g.fault.getD g.content.length) else none
        hasOpened, isWhole := false })
    { content := [], fault := none, hasOpened := false, isWhole := true }
where
  /-- Reads so many bytes, or up to the end. -/
  pullAll (i n : Nat) : Procedure Raw :=
    stepwise ([] : Raw) fun done => do
      if n ≤ done.length then return .done done
      match ← pull i (n - done.length) with
      | .error _ | .ok [] => return .done done
      | .ok r => return .more (done ++ r)

/-- What is dumped of a text in which something is missing at a place. The row there is
    the last one, and after it the one before is shown once more. -/
def Dump.upTo (d : Dump) (place : Nat) (r : Raw) : Raw :=
  let start := place / d.width * d.width
  let size := start + d.width
  if r.length < size then r
  else
    let before := if start = 0 then List.replicate d.width '\x00'
      else (r.drop (start - d.width)).take d.width
    r.take size ++ before

/-- The texts in a dump that are at least so long and that a zero byte ends, each with
    its address. -/
def hiddenTexts (least : Nat) (r : Raw) : List (Nat × Raw) :=
  let (_, _, found) := r.foldl (fun ((n, text, found) : Nat × Raw × List (Nat × Raw)) c =>
    if ' ' ≤ c && c ≤ '~' then (n + 1, c :: text, found)
    else
      let isText := c = '\x00' && least ≤ text.length
      (n + 1, [], if isText then (n - text.length, text.reverse) :: found else found)) (0, [], [])
  found.reverse

/-- Dumps files. -/
def od (arguments : List Raw) : Procedure Nat := do
  let a ← readArguments odOptions arguments
  let given ← a.given.mapM fun (c, value) =>
    if c = 't' then readWays value (value.length + 1) value else return (wayOfLetter? c).toList
  let addressBase ← match a.value? 'A' with
    | none => pure (some 8)
    | some ('o' :: _) => pure (some 8)
    | some ('d' :: _) => pure (some 10)
    | some ('x' :: _) => pure (some 16)
    | some ('n' :: _) => pure none
    | some r =>
      refuse 1 ("invalid output address radix '" ++ r.take 1
        ++ "'; it must be one character from [doxn]".toList)
  let skipped ← match a.value? 'j' with
    | some r => demandAmount 'j' true r
    | none => pure 0
  let limit ← (a.value? 'N').mapM (demandAmount 'N' true)
  let least ← (a.value? 'S').mapM fun r => if r.isEmpty then pure 3 else demandAmount 'S' true r
  let highestFirst ← match (a.value? 'E').map String.ofList with
    | none | some "little" => pure false
    | some "big" => pure true
    | some r => do
      tell ("invalid argument ".toList ++ Quote.curly r.toList ++ " for ".toList ++ Quote.curly "--endian")
      complain ("Valid arguments are:\n  - ".toList ++ Quote.curly "little" ++ "\n  - ".toList
        ++ Quote.curly "big" ++ ['\n'])
      complain (helpHint (← get).name)
      quit 1
  let isModern := "AjNtvwSE".toList.any a.has
  let (files, offset, label) ← if isModern then pure (a.operands, none, none)
    else dumpedFiles (a.has 'T') a.operands
  let ways := if given.flatten.isEmpty then [{ form := .octal, size := 2 }] else given.flatten
  let skipped := offset.getD skipped
  let d : Dump := {
    addressBase, ways, width := 16, showsRepeats := a.has 'v', highestFirst
    label := label.map (· - skipped) }
  let width ← match a.value? 'w' with
    | none => pure (if d.unit < 16 then d.unit * (16 / d.unit) else d.unit)
    | some r => do
      let n ← if r.isEmpty then pure 32 else demandAmount 'w' false r
      if n ≠ 0 && n % d.unit = 0 then pure n
      else do
        tell ("warning: invalid width ".toList ++ Raw.ofNat n ++ "; using ".toList ++ Raw.ofNat d.unit
          ++ " instead".toList)
        pure d.unit
  let d := { d with width }
  let g ← gather (limit.map (· + skipped)) files
  if !g.hasOpened then return 1
  if g.content.length < skipped then refuse 1 "cannot skip past end of combined input"
  let content := g.content.drop skipped
  match least with
  | some least =>
    (hiddenTexts least content).forM fun (n, text) => do
      let address := d.address (skipped + n)
      write (address ++ (if address.isEmpty then [] else [' ']) ++ text ++ ['\n'])
  | none =>
    let content := match g.fault with
      | some place => d.upTo (place - skipped) content
      | none => content
    write (d.shown skipped content)
  return if g.isWhole then 0 else 1

end Utility

end MapAudit.Script
