import MapAudit.Script.Raw

/-! # Encodings

    An encoding writes bytes as digits of a few bits each. Digits come in groups that
    stand for whole bytes, and a last group that is short is filled up with marks. What
    is written in an encoding can be read again, and reading stops at the first group
    that is none.
-/

namespace MapAudit.Script

/-- **Encoding** of bytes as digits. -/
structure Encoding where
  /-- The digits, in the order of their values. -/
  alphabet : Raw
  /-- How many bits a digit stands for. -/
  bits : Nat
  /-- How many digits a group has. -/
  group : Nat
  /-- Whether the first digit of a group stands for the lowest bits. -/
  lowestFirst : Bool := false
  /-- Whether the bytes count that the digits of a last group make which is too short. -/
  takesShort : Bool := false

namespace Encoding

/-- Letters and digits. -/
def alphanumerals : Raw :=
  "ABCDEFGHIJKLMNOPQRSTUVWXYZabcdefghijklmnopqrstuvwxyz0123456789".toList

/-- Digits of six bits. -/
def base64 : Encoding where
  alphabet := alphanumerals ++ ['+', '/']
  bits := 6
  group := 4
  takesShort := true

/-- Digits of six bits that may stand in the names of files. -/
def base64Names : Encoding :=
  { base64 with alphabet := alphanumerals ++ ['-', '_'] }

/-- Digits of five bits. -/
def base32 : Encoding where
  alphabet := "ABCDEFGHIJKLMNOPQRSTUVWXYZ234567".toList
  bits := 5
  group := 8

/-- Digits of five bits in the order of their characters. -/
def base32Ordered : Encoding :=
  { base32 with alphabet := "0123456789ABCDEFGHIJKLMNOPQRSTUV".toList }

/-- Digits of four bits. -/
def base16 : Encoding where
  alphabet := "0123456789ABCDEF".toList
  bits := 4
  group := 2

/-- Digits of one bit. -/
def base2 : Encoding where
  alphabet := ['0', '1']
  bits := 1
  group := 8

/-- Digits of one bit, the lowest first. -/
def base2Reversed : Encoding :=
  { base2 with lowestFirst := true }

/-- How many bytes a group stands for. -/
def groupBytes (e : Encoding) : Nat :=
  e.bits * e.group / 8

/-- The digits of some bytes, at most as many as a group stands for. -/
def groupOf (e : Encoding) (bytes : Raw) : Raw :=
  let n := bytes.foldl (fun n c => 256 * n + c.toNat) 0 <<< (8 * (e.groupBytes - bytes.length))
  let digits := (List.range e.group).map fun i =>
    let place := if e.lowestFirst then i else e.group - 1 - i
    e.alphabet.getD ((n >>> (e.bits * place)) % (1 <<< e.bits)) '='
  let used := (8 * bytes.length + e.bits - 1) / e.bits
  digits.take used ++ List.replicate (e.group - used) '='

/-- The groups of some bytes, at most `n` of them. -/
def groups (e : Encoding) : (n : Nat) → Raw → Raw
  | 0, _ => []
  | n + 1, r =>
    if r.isEmpty then [] else e.groupOf (r.take e.groupBytes) ++ groups e n (r.drop e.groupBytes)

/-- **Encoded** bytes. -/
def encode (e : Encoding) (r : Raw) : Raw :=
  e.groups r.length r

/-- The bytes that a group stands for, and whether it is one. -/
def readGroup (e : Encoding) (r : Raw) : Raw × Bool :=
  let digits := r.takeWhile e.alphabet.contains
  let values := digits.map fun c => e.alphabet.idxOf c
  let values := if e.lowestFirst then values.reverse else values
  let n := values.foldl (fun n v => (n <<< e.bits) + v) 0
  let size := e.bits * digits.length
  let isWhole := r.length = e.group
  let isGroup := isWhole && !digits.isEmpty && size % 8 < e.bits && (r.drop digits.length).all (· = '=')
  let bytes := (List.range (size / 8)).map fun i => Raw.byteOf (n >>> (size - 8 * (i + 1)))
  (if isWhole || e.takesShort then bytes else [], isGroup)

/-- The bytes that groups stand for, of which at most `n` are read, and whether all are
    groups. -/
def readGroups (e : Encoding) : (n : Nat) → Raw → Raw × Bool
  | 0, r => ([], r.isEmpty)
  | n + 1, r =>
    if r.isEmpty then ([], true)
    else
      let (bytes, isGroup) := e.readGroup (r.take e.group)
      if isGroup then
        let (rest, areGroups) := readGroups e n (r.drop e.group)
        (bytes ++ rest, areGroups)
      else (bytes, false)

/-- The bytes that a text **decodes** to, up to its first fault, and whether it has none.
    Ends of lines are left out, and so is all that is no digit if that is wanted. -/
def decode (e : Encoding) (ignoresOthers : Bool) (r : Raw) : Raw × Bool :=
  let isMeant (c : Char) : Bool :=
    if ignoresOthers then c = '=' || e.alphabet.contains c else c ≠ '\n'
  let r := r.filter isMeant
  e.readGroups r.length r

end Encoding

end MapAudit.Script
