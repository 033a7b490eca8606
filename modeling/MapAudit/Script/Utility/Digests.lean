import MapAudit.Digest.Basic
import MapAudit.Script.Encoding
import MapAudit.Script.Utility.Lines

/-! # Digests of files

    These write the digests of files, each on a line with the name of the file, and
    check whether files still have the digests that such lines say.
-/

namespace MapAudit.Script

namespace Utility

open Procedure

/-! ## Kinds of digests -/

/-- **Kind** of digests. -/
structure DigestKind where
  /-- What it is called in lines that name it. -/
  label : String
  /-- How many bytes a digest has, at most. -/
  size : Nat
  /-- The digest of a text, of so many bytes. -/
  digest : Nat → Raw → Raw
  /-- Whether digests can be shorter. -/
  isVariable : Bool := false

namespace DigestKind

/-- Digests of 16 bytes. -/
def md5 : DigestKind where
  label := "MD5"
  size := 16
  digest := fun _ => Digest.Md5.digest

/-- Digests of 20 bytes. -/
def sha1 : DigestKind where
  label := "SHA1"
  size := 20
  digest := fun _ => Digest.Sha1.digest

/-- Digests of 28 bytes. -/
def sha224 : DigestKind where
  label := "SHA224"
  size := 28
  digest := fun _ => Digest.Sha2.digest224

/-- Digests of 32 bytes. -/
def sha256 : DigestKind where
  label := "SHA256"
  size := 32
  digest := fun _ => Digest.Sha2.digest256

/-- Digests of 48 bytes. -/
def sha384 : DigestKind where
  label := "SHA384"
  size := 48
  digest := fun _ => Digest.Sha2.digest384

/-- Digests of 64 bytes. -/
def sha512 : DigestKind where
  label := "SHA512"
  size := 64
  digest := fun _ => Digest.Sha2.digest512

/-- Digests of up to 64 bytes. -/
def blake2b : DigestKind where
  label := "BLAKE2b"
  size := 64
  digest := Digest.Blake2.digest
  isVariable := true

/-- The kinds of digests by their names. -/
def all : List (String × DigestKind) :=
  [("md5", md5), ("sha1", sha1), ("sha224", sha224), ("sha256", sha256), ("sha384", sha384),
    ("sha512", sha512), ("blake2b", blake2b)]

/-- What digests of so many bytes are called. -/
def labelFor (k : DigestKind) (size : Nat) : Raw :=
  k.label.toList ++ if size = k.size then [] else '-' :: Raw.ofNat (8 * size)

end DigestKind

/-! ## Lines -/

/-- A name in which ends of lines and backslashes are written as letters, and whether it
    has any. -/
def escapedName (r : Raw) : Raw × Bool :=
  let escaped := r.flatMap fun c => match c with
    | '\\' => ['\\', '\\']
    | '\n' => ['\\', 'n']
    | '\r' => ['\\', 'r']
    | c => [c]
  (escaped, escaped ≠ r)

/-- The name that an escaped one stands for. -/
def unescapedName? : Raw → Option Raw
  | [] => some []
  | '\\' :: '\\' :: rest => (unescapedName? rest).map ('\\' :: ·)
  | '\\' :: 'n' :: rest => (unescapedName? rest).map ('\n' :: ·)
  | '\\' :: 'r' :: rest => (unescapedName? rest).map ('\r' :: ·)
  | '\\' :: _ => none
  | c :: rest => (unescapedName? rest).map (c :: ·)

/-- **Statement**: what a line says about a file. -/
structure Statement where
  /-- The kind of its digest. -/
  kind : DigestKind
  /-- How many bytes the digest has. -/
  size : Nat
  /-- The digest. -/
  digest : Raw
  /-- The file. -/
  file : Raw

/-- The bytes that hexadecimal digits stand for. -/
def hexBytes? (r : Raw) : Option Raw :=
  if r.length % 2 = 0 && r.all Raw.isHex then
    some ((Digest.parts 2 r).map fun digits => Raw.byteOf (Raw.hexValue digits))
  else none

/-- The digest that hexadecimal digits or those of another encoding stand for, if it has
    so many bytes. -/
def digestOf? (size : Nat) (r : Raw) : Option Raw :=
  if r.length = 2 * size then hexBytes? r
  else
    let (bytes, isRight) := Encoding.base64.decode false r
    if isRight && bytes.length = size then some bytes else none

/-- Reads a line that names the kind of its digest. -/
def readLabelled? (kinds : List DigestKind) (r : Raw) : Option Statement := do
  let word := r.takeWhile fun c => c ≠ ' ' && c ≠ '('
  let label := word.takeWhile (· ≠ '-')
  let kind ← kinds.find? fun k => k.label.toList = label
  let size ← match word.drop label.length with
    | [] => some kind.size
    | _ :: bits => do
      let n ← Raw.toNat? bits
      if kind.isVariable && n % 8 = 0 && 0 < n && n ≤ 8 * kind.size then some (n / 8) else none
  let rest := r.drop word.length
  let rest := if rest.head? = some ' ' then rest.drop 1 else rest
  let rest ← if rest.head? = some '(' then some (rest.drop 1) else none
  let after := (rest.reverse.takeWhile (· ≠ ')')).reverse
  if after.length = rest.length then none
  let file := rest.take (rest.length - after.length - 1)
  let shown ← match after.dropWhile (· = ' ') with
    | '=' :: shown => some (shown.dropWhile (· = ' '))
    | _ => none
  return { kind, size, digest := ← digestOf? size shown, file }

/-- Reads a line that begins with a digest of a kind. -/
def readPlain? (kind : DigestKind) (r : Raw) : Option Statement := do
  let shown := r.takeWhile fun c => c ≠ ' ' && c ≠ '\t'
  let size := if kind.isVariable then shown.length / 2 else kind.size
  if size = 0 || kind.size < size then none
  let digest ← digestOf? size shown
  let file ← match r.drop shown.length with
    | _ :: ' ' :: file | _ :: '*' :: file => some file
    | _ :: file => some file
    | [] => none
  if file.isEmpty then none
  return { kind, size, digest, file }

/-- Reads a line. Where a kind is known, the line need not name it. -/
def readStatement? (kind : Option DigestKind) (l : Raw) : Option Statement := do
  let r := l.dropWhile fun c => c = ' ' || c = '\t'
  let (r, isEscaped) := match r with
    | '\\' :: r => (r, true)
    | r => (r, false)
  let kinds := match kind with
    | some k => [k]
    | none => DigestKind.all.map (·.2)
  let s ← (readLabelled? kinds r).orElse fun _ => kind.bind fun k => readPlain? k r
  if isEscaped then return { s with file := ← unescapedName? s.file } else return s

/-! ## Writing digests -/

/-- **Style** of lines with digests. -/
structure DigestStyle where
  /-- Whether lines name the kind of their digests. -/
  isLabelled : Bool
  /-- Whether files are marked as read byte by byte. -/
  isBinary : Bool
  /-- Whether a zero byte ends lines. -/
  endsInZero : Bool
  /-- Whether digests are written as they are. -/
  isRaw : Bool
  /-- Whether digests are written in digits of six bits. -/
  isEncoded : Bool

/-- A line with a digest. -/
def digestLine (s : DigestStyle) (kind : DigestKind) (size : Nat) (file digest : Raw) : Raw :=
  if s.isRaw then digest
  else
    let (name, isEscaped) := if s.endsInZero then (file, false) else escapedName file
    let shown := if s.isEncoded then Encoding.base64.encode digest else Digest.hexadecimal digest
    let line := if s.isLabelled then kind.labelFor size ++ " (".toList ++ name ++ ") = ".toList ++ shown
      else shown ++ ' ' :: (if s.isBinary then '*' else ' ') :: name
    (if isEscaped then ['\\'] else []) ++ line ++ [if s.endsInZero then '\x00' else '\n']

/-- Writes the digests of files. -/
def writeDigests (s : DigestStyle) (kind : DigestKind) (size : Nat) (files : List Raw) : Procedure Nat :=
  forEach (filesOf files) fun file => do
    match ← readOperand file with
    | .error fault => do
      tellFile file fault
      return 1
    | .ok r => do
      write (digestLine s kind size file (kind.digest size r))
      return 0

/-! ## Checking digests -/

/-- What was found when digests were checked. -/
structure Findings where
  /-- Lines that say something. -/
  readable : Nat := 0
  /-- Lines that do not. -/
  unreadable : Nat := 0
  /-- Files that could not be read. -/
  missing : Nat := 0
  /-- Digests that are others. -/
  wrong : Nat := 0
  /-- Digests that are right. -/
  right : Nat := 0

/-- What is said when digests are checked. -/
structure CheckStyle where
  /-- Whether nothing is said at all. -/
  isSilent : Bool
  /-- Whether only files with other digests are named. -/
  isQuiet : Bool
  /-- Whether every line that says nothing is complained about. -/
  warns : Bool
  /-- Whether such lines make the check fail. -/
  isStrict : Bool
  /-- Whether files that are not there are left out. -/
  passesMissing : Bool

/-- Checks what a line says. -/
def checkLine (s : CheckStyle) (kind : Option DigestKind) (list : Raw) (f : Findings) (l : Raw)
    (number : Nat) : Procedure Findings := do
  if l.head? = some '#' then return f
  let l := if l.getLast? = some '\r' then l.dropLast else l
  match readStatement? kind l with
  | none => do
    if s.warns then
      let label := match kind with
        | some k => k.label.toList
        | none => "CRC".toList
      tell (Quote.asNeeded list ++ ": " ++ Raw.ofNat number ++ ": improperly formatted ".toList
        ++ label ++ " checksum line".toList)
    return { f with unreadable := f.unreadable + 1 }
  | some line => do
    let f := { f with readable := f.readable + 1 }
    let (name, isEscaped) := escapedName line.file
    let say (r : String) : Procedure Unit :=
      if s.isSilent then return ()
      else write ((if isEscaped then ['\\'] else []) ++ name ++ ": ".toList ++ r.toList ++ ['\n'])
    match ← readOperand line.file with
    | .error fault => do
      if s.passesMissing && fault = .notFound then return f
      flush
      tellFile line.file fault
      say "FAILED open or read"
      return { f with missing := f.missing + 1 }
    | .ok r =>
      if line.kind.digest line.size r = line.digest then
        if !s.isQuiet then say "OK"
        return { f with right := f.right + 1 }
      else do
        say "FAILED"
        return { f with wrong := f.wrong + 1 }

/-- Warns of a number of things, if there are any. -/
def warnOf (n : Nat) (one several : String) : Procedure Unit := do
  if n ≠ 0 then
    flush
    tell ("WARNING: ".toList ++ Raw.ofNat n ++ ' ' :: (if n = 1 then one else several).toList)

/-- Checks what the lines of lists say. -/
def checkDigests (s : CheckStyle) (kind : Option DigestKind) (lists : List Raw) : Procedure Nat :=
  forEach (filesOf lists) fun list => do
    match ← readOperand list with
    | .error fault => do
      tellFile list fault
      return 1
    | .ok r => do
      let shown := if list = ['-'] then "standard input".toList else list
      let lines := (partsOf '\n' r).zipIdx
      let f ← lines.foldlM (fun f (l, i) => checkLine s kind shown f l (i + 1)) ({} : Findings)
      if f.readable = 0 then
        flush
        tell (Quote.asNeeded shown ++ ": no properly formatted checksum lines found".toList)
        return 1
      if !s.isSilent then
        warnOf f.unreadable "line is improperly formatted" "lines are improperly formatted"
        warnOf f.missing "listed file could not be read" "listed files could not be read"
        warnOf f.wrong "computed checksum did NOT match" "computed checksums did NOT match"
        if s.passesMissing && f.right = 0 then
          flush
          tell (Quote.asNeeded shown ++ ": no file was verified".toList)
      let isGood := f.right ≠ 0 && f.wrong = 0 && f.missing = 0 && !(s.isStrict && f.unreadable ≠ 0)
      return if isGood then 0 else 1

/-! ## Utilities -/

/-- The options of utilities that write digests. -/
def digestOptions : OptionTable where
  letters := "bctwz"
  names := [("binary", 'b'), ("check", 'c'), ("ignore-missing", 'M'), ("quiet", 'Q'), ("status", 'S'),
    ("strict", 'X'), ("tag", 'T'), ("text", 't'), ("warn", 'w'), ("zero", 'z')]

/-- The options where digests can be shorter. -/
def variableOptions : OptionTable :=
  { digestOptions with
    letters := "bl:ctwz", names := digestOptions.names ++ [("length=", 'l')] }

/-- The options of `cksum`. -/
def cksumOptions : OptionTable :=
  { digestOptions with
    letters := "a:bl:ctwz"
    names := digestOptions.names ++
      [("algorithm=", 'a'), ("base64", '6'), ("debug", 'D'), ("length=", 'l'), ("raw", 'R'),
        ("untagged", 'U')] }

/-- How many bytes a digest has, by the option that says it. -/
def digestSize (kind : DigestKind) (a : Arguments) : Procedure Nat := do
  match a.value? 'l' with
  | none => return kind.size
  | some r => do
    let invalid := "invalid length: ".toList ++ Quote.curly r
    match Raw.toNat? r with
    | none => refuse 1 invalid
    | some n => do
      if n % 8 ≠ 0 then
        tell invalid
        refuse 1 "length is not a multiple of 8"
      if 8 * kind.size < n then
        tell invalid
        refuse 1 ("maximum digest length for ".toList ++ Quote.curly kind.label ++ " is ".toList
          ++ Raw.ofNat (8 * kind.size) ++ " bits".toList)
      return if n = 0 then kind.size else n / 8

/-- Refuses options that make no sense together. -/
def refuseContradictions (a : Arguments) (isLabelled isGeneral : Bool) : Procedure Unit := do
  let isText := a.lastOf? "btT" = some 't'
  let checks := a.has 'c'
  if isLabelled && isText then
    refuseUse 1 (if isGeneral then "--text mode is only supported with --untagged"
      else "--tag does not support --text mode")
  if checks && a.has 'z' then
    refuseUse 1 "the --zero option is not supported when verifying checksums"
  if checks && isLabelled && !isGeneral then
    refuseUse 1 "the --tag option is meaningless when verifying checksums"
  if checks && (a.lastOf? "btT").isSome then
    refuseUse 1 "the --binary and --text options are meaningless when verifying checksums"
  [('M', "ignore-missing"), ('S', "status"), ('w', "warn"), ('Q', "quiet"), ('X', "strict")].forM
    fun (letter, name) => do
      let isMeant := a.has letter && (!"SwQ".toList.contains letter || a.lastOf? "SwQ" = some letter)
      if isMeant && !checks then
        refuseUse 1 ("the --".toList ++ name.toList
          ++ " option is meaningful only when verifying checksums".toList)

/-- The style of lines that options ask for. -/
def styleOf (a : Arguments) (isLabelled : Bool) : DigestStyle where
  isLabelled
  isBinary := (a.lastOf? "btT").any (· ≠ 't')
  endsInZero := a.has 'z'
  isRaw := a.has 'R'
  isEncoded := a.has '6'

/-- What is to be said when digests are checked. -/
def checkStyleOf (a : Arguments) : CheckStyle :=
  let last := a.lastOf? "SwQ"
  { isSilent := last = some 'S', isQuiet := last = some 'Q', warns := last = some 'w'
    isStrict := a.has 'X', passesMissing := a.has 'M' }

/-- Writes or checks the digests of a kind. -/
def digestsOf (kind : DigestKind) (arguments : List Raw) : Procedure Nat := do
  let a ← readArguments (if kind.isVariable then variableOptions else digestOptions) arguments
  let size ← digestSize kind a
  refuseContradictions a (a.has 'T') false
  if a.has 'c' then checkDigests (checkStyleOf a) (some kind) a.operands
  else writeDigests (styleOf a (a.has 'T')) kind size a.operands

/-! ## Check sums -/

/-- **Kind** of check sums. -/
structure SumKind where
  /-- The check sum of a text. -/
  sum : Raw → Nat
  /-- How many bytes it has. -/
  size : Nat
  /-- How it is written, with the size of the text after it. -/
  shown : (sum size : Nat) → Raw

namespace SumKind

/-- The number of blocks that some bytes take. -/
def blocks (blockSize n : Nat) : Nat :=
  (n + blockSize - 1) / blockSize

/-- Turned sums, in at least five digits, with the number of blocks of 1024 bytes. -/
def turned : SumKind where
  sum := Digest.turnedSum
  size := 2
  shown sum n :=
    let digits := Raw.ofNat sum
    List.replicate (5 - digits.length) '0' ++ digits ++ ' ' :: padded 5 (blocks 1024 n)

/-- Folded sums, with the number of blocks of 512 bytes. -/
def folded : SumKind where
  sum := Digest.foldedSum
  size := 2
  shown sum n := Raw.ofNat sum ++ ' ' :: Raw.ofNat (blocks 512 n)

/-- Cyclic sums, with the number of bytes. -/
def cyclic : SumKind where
  sum := Digest.cyclicSum
  size := 4
  shown sum n := Raw.ofNat sum ++ ' ' :: Raw.ofNat n

/-- The kinds of check sums by their names. -/
def all : List (String × SumKind) :=
  [("bsd", turned), ("sysv", folded), ("crc", cyclic)]

end SumKind

/-- Writes the check sums of files. -/
def writeSums (kind : SumKind) (isRaw endsInZero : Bool) (files : List Raw) : Procedure Nat :=
  forEach (filesOf files) fun file => do
    match ← readOperand file with
    | .error fault => do
      tellFile file fault
      return 1
    | .ok r => do
      let sum := kind.sum r
      let name := if files.isEmpty then [] else ' ' :: file
      write (if isRaw then Digest.bigBytes kind.size sum
        else kind.shown sum r.length ++ name ++ [if endsInZero then '\x00' else '\n'])
      return 0

/-- Writes the check sums of files, and how many blocks they take. -/
def sum (arguments : List Raw) : Procedure Nat := do
  let a ← readArguments { letters := "rs", names := [("sysv", 's')] } arguments
  writeSums (if a.lastOf? "rs" = some 's' then .folded else .turned) false false a.operands

/-- Writes check sums or digests of files, or checks digests. -/
def cksum (arguments : List Raw) : Procedure Nat := do
  let a ← readArguments cksumOptions arguments
  let name := String.ofList ((a.value? 'a').getD "crc".toList)
  let known := SumKind.all.map (·.1) ++ DigestKind.all.map (·.1)
  if !known.contains name then
    tell ("invalid argument ".toList ++ Quote.curly name ++ " for ".toList ++ Quote.curly "--algorithm")
    complain "Valid arguments are:\n"
    (known ++ ["sm3"]).forM fun name => complain ("  - ".toList ++ Quote.curly name ++ ['\n'])
    complain (helpHint (← get).name)
    quit 1
  if a.has 'l' && name ≠ "blake2b" then
    refuse 1 "--length is only supported with --algorithm=blake2b"
  if a.has 'c' && a.has 'a' && (SumKind.all.lookup name).isSome then
    refuse 1 "--check is not supported with --algorithm=\x7bbsd,sysv,crc\x7d"
  if a.has '6' && a.has 'R' then refuseUse 1 "--base64 and --raw are mutually exclusive"
  let isLabelled := !a.has 'U' || a.lastOf? "UT" = some 'T'
  refuseContradictions a isLabelled true
  if a.has 'R' && 1 < a.operands.length then
    refuse 1 "the --raw option is not supported with multiple files"
  if a.has 'D' then tell "using pclmul hardware support"
  match DigestKind.all.lookup name, SumKind.all.lookup name with
  | some kind, _ => do
    let size ← digestSize kind a
    if a.has 'c' then checkDigests (checkStyleOf a) (some kind) a.operands
    else writeDigests (styleOf a isLabelled) kind size a.operands
  | none, some kind =>
    if a.has 'c' then checkDigests (checkStyleOf a) none a.operands
    else writeSums kind (a.has 'R') (a.has 'z') a.operands
  | none, none => return 1

end Utility

end MapAudit.Script
