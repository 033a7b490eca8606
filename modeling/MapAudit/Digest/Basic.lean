import MapAudit.Script.Raw

/-! # Digests

    A digest is a short text that is made of a longer one, so that texts which differ
    have digests that differ. What is common to the ways of making them is how a text
    is cut into blocks, and how bytes and numbers stand for each other.

    * `Md5` has sixteen bytes: four words are mixed with every block in sixty-four steps,
      each of which adds a word of the block and a constant, and turns the sum by some bits.
    * `Sha1` has five words of 32 bits and eighty steps. A block of sixteen words is drawn
      out to as many as there are steps, and the words of the state are mixed with each of
      them in turn.
    * `Sha2` is made in the same way for four kinds of digests, of twenty-eight bytes and
      more, from eight words of 32 bits or of 64. All its constants are fractions of roots of
      primes.
    * `Blake2` makes digests of any number of bytes up to sixty-four. Eight words are mixed
      with every block of sixteen words in twelve rounds. A round mixes the columns and then
      the diagonals of a square of sixteen words, and takes the words of the block in an order
      of its own.

    Check sums are digests of few bits that show accidental changes.
-/

namespace MapAudit.Digest

/-- The number that bytes stand for, the highest first. -/
def bigNumber (r : Raw) : Nat :=
  r.foldl (fun n c => 256 * n + c.toNat) 0

/-- The number that bytes stand for, the lowest first. -/
def littleNumber (r : Raw) : Nat :=
  r.foldr (fun c n => 256 * n + c.toNat) 0

/-- So many bytes of a number, the lowest first. -/
def littleBytes (count n : Nat) : Raw :=
  (List.range count).map fun i => Raw.byteOf (n >>> (8 * i))

/-- So many bytes of a number, the highest first. -/
def bigBytes (count n : Nat) : Raw :=
  (littleBytes count n).reverse

/-- The parts of a text, each of so many bytes, at most `n` of them. -/
def partsUpTo (size : Nat) : (n : Nat) → Raw → List Raw
  | 0, _ => []
  | n + 1, r => if r.isEmpty then [] else r.take size :: partsUpTo size n (r.drop size)

/-- The parts of a text, each of so many bytes, but for the last one. -/
def parts (size : Nat) (r : Raw) : List Raw :=
  partsUpTo size r.length r

/-- The words of a block, each of so many bytes, the lowest byte first. -/
def littleWords (w : Nat) (block : Raw) : Array (BitVec w) :=
  ((parts (w / 8) block).map fun r => BitVec.ofNat w (littleNumber r)).toArray

/-- The words of a block, each of so many bytes, the highest byte first. -/
def bigWords (w : Nat) (block : Raw) : Array (BitVec w) :=
  ((parts (w / 8) block).map fun r => BitVec.ofNat w (bigNumber r)).toArray

/-- A text that is filled up to whole blocks: by a mark, by zeros, and by the number of its
    bits, which `length` writes in so many bytes. -/
def filled (blockSize lengthSize : Nat) (length : Nat → Raw) (r : Raw) : Raw :=
  let spare := (2 * blockSize - 1 - lengthSize - r.length % blockSize) % blockSize
  r ++ '\x80' :: List.replicate spare '\x00' ++ length (8 * r.length)

/-- Bytes in hexadecimal digits. -/
def hexadecimal (r : Raw) : Raw :=
  r.flatMap fun c => [Nat.digitChar (c.toNat / 16), Nat.digitChar (c.toNat % 16)]

/-! ## Check sums -/

/-- The remainder after eight more bits, of which the highest are left to be divided. -/
def divided (n : BitVec 32) : BitVec 32 :=
  (List.range 8).foldl (fun n _ =>
    if n.msb then (n <<< 1) ^^^ 0x04c11db7 else n <<< 1) n

/-- The remainders after single bytes. -/
def remainders : Array (BitVec 32) :=
  ((List.range 256).map fun i => divided (BitVec.ofNat 32 (i <<< 24))).toArray

/-- The remainder of a polynomial after one more byte. -/
def remainderAfter (n : BitVec 32) (byte : Nat) : BitVec 32 :=
  (n <<< 8) ^^^ remainders.getD ((n >>> 24).toNat ^^^ byte) 0

/-- **Cyclic check sum** of a text: the remainder of its bits and of its length, which is
    written with as few bytes as possible, the lowest first. -/
def cyclicSum (r : Raw) : Nat :=
  let lengthSize := if r.isEmpty then 0 else r.length.log2 / 8 + 1
  (~~~((r ++ littleBytes lengthSize r.length).foldl (fun n c => remainderAfter n c.toNat) 0)).toNat

/-- **Turned sum** of a text: the sum of its bytes, which is turned by one bit before
    every addition. -/
def turnedSum (r : Raw) : Nat :=
  (r.foldl (fun (n : BitVec 16) c => n.rotateRight 1 + BitVec.ofNat 16 c.toNat) 0).toNat

/-- **Folded sum** of a text: the sum of its bytes, to whose lower half the upper half is
    added. -/
def foldedSum (r : Raw) : Nat :=
  let n := r.foldl (fun n c => n + c.toNat) 0 % 4294967296
  let n := n % 65536 + n / 65536
  n % 65536 + n / 65536

end MapAudit.Digest

/-! ## Digests of sixteen bytes -/

namespace MapAudit.Digest.Md5

/-- The constants of the steps: the fractions of the sines of whole numbers. -/
def constants : Array (BitVec 32) := #[
  0xd76aa478, 0xe8c7b756, 0x242070db, 0xc1bdceee, 0xf57c0faf, 0x4787c62a, 0xa8304613, 0xfd469501,
  0x698098d8, 0x8b44f7af, 0xffff5bb1, 0x895cd7be, 0x6b901122, 0xfd987193, 0xa679438e, 0x49b40821,
  0xf61e2562, 0xc040b340, 0x265e5a51, 0xe9b6c7aa, 0xd62f105d, 0x02441453, 0xd8a1e681, 0xe7d3fbc8,
  0x21e1cde6, 0xc33707d6, 0xf4d50d87, 0x455a14ed, 0xa9e3e905, 0xfcefa3f8, 0x676f02d9, 0x8d2a4c8a,
  0xfffa3942, 0x8771f681, 0x6d9d6122, 0xfde5380c, 0xa4beea44, 0x4bdecfa9, 0xf6bb4b60, 0xbebfbc70,
  0x289b7ec6, 0xeaa127fa, 0xd4ef3085, 0x04881d05, 0xd9d4d039, 0xe6db99e5, 0x1fa27cf8, 0xc4ac5665,
  0xf4292244, 0x432aff97, 0xab9423a7, 0xfc93a039, 0x655b59c3, 0x8f0ccc92, 0xffeff47d, 0x85845dd1,
  0x6fa87e4f, 0xfe2ce6e0, 0xa3014314, 0x4e0811a1, 0xf7537e82, 0xbd3af235, 0x2ad7d2bb, 0xeb86d391]

/-- By how many bits the sums are turned, for every round of sixteen steps. -/
def turns : Array (Array Nat) :=
  #[#[7, 12, 17, 22], #[5, 9, 14, 20], #[4, 11, 16, 23], #[6, 10, 15, 21]]

/-- **State**: the words that are mixed with the blocks. -/
structure State where
  /-- The first word. -/
  a : BitVec 32
  /-- The second word. -/
  b : BitVec 32
  /-- The third word. -/
  c : BitVec 32
  /-- The fourth word. -/
  d : BitVec 32

/-- The words before the first block. -/
def State.start : State where
  a := 0x67452301
  b := 0xefcdab89
  c := 0x98badcfe
  d := 0x10325476

/-- What a step mixes the last three words to, and which word of the block it adds. -/
def mixture (s : State) (i : Nat) : BitVec 32 × Nat :=
  match i / 16 with
  | 0 => ((s.b &&& s.c) ||| (~~~s.b &&& s.d), i)
  | 1 => ((s.d &&& s.b) ||| (~~~s.d &&& s.c), 5 * i + 1)
  | 2 => (s.b ^^^ s.c ^^^ s.d, 3 * i + 5)
  | _ => (s.c ^^^ (s.b ||| ~~~s.d), 7 * i)

/-- A step. -/
def step (block : Array (BitVec 32)) (s : State) (i : Nat) : State :=
  let (mixed, k) := mixture s i
  let sum := s.a + mixed + constants.getD i 0 + block.getD (k % 16) 0
  let turn := (turns.getD (i / 16) #[]).getD (i % 4) 0
  { a := s.d, b := s.b + sum.rotateLeft turn, c := s.b, d := s.c }

/-- The state after one more block. -/
def afterBlock (s : State) (block : Raw) : State :=
  let t := (List.range 64).foldl (step (littleWords 32 block)) s
  { a := s.a + t.a, b := s.b + t.b, c := s.c + t.c, d := s.d + t.d }

/-- **Digest** of a text. -/
def digest (r : Raw) : Raw :=
  let s := (parts 64 (filled 64 8 (littleBytes 8) r)).foldl afterBlock .start
  [s.a, s.b, s.c, s.d].flatMap fun word => littleBytes 4 word.toNat

end MapAudit.Digest.Md5

namespace MapAudit.Digest.Sha1

/-- **State**: the words that are mixed with the blocks. -/
structure State where
  /-- The first word. -/
  a : BitVec 32
  /-- The second word. -/
  b : BitVec 32
  /-- The third word. -/
  c : BitVec 32
  /-- The fourth word. -/
  d : BitVec 32
  /-- The fifth word. -/
  e : BitVec 32

/-- The words before the first block. -/
def State.start : State where
  a := 0x67452301
  b := 0xefcdab89
  c := 0x98badcfe
  d := 0x10325476
  e := 0xc3d2e1f0

/-- A block drawn out by one more word. -/
def drawnOut (words : Array (BitVec 32)) (i : Nat) : Array (BitVec 32) :=
  let word (k : Nat) : BitVec 32 := words.getD (i - k) 0
  words.push ((word 3 ^^^ word 8 ^^^ word 14 ^^^ word 16).rotateLeft 1)

/-- What a step mixes the middle words to, and the constant that it adds. -/
def mixture (s : State) (i : Nat) : BitVec 32 × BitVec 32 :=
  match i / 20 with
  | 0 => ((s.b &&& s.c) ||| (~~~s.b &&& s.d), 0x5a827999)
  | 1 => (s.b ^^^ s.c ^^^ s.d, 0x6ed9eba1)
  | 2 => ((s.b &&& s.c) ||| (s.b &&& s.d) ||| (s.c &&& s.d), 0x8f1bbcdc)
  | _ => (s.b ^^^ s.c ^^^ s.d, 0xca62c1d6)

/-- A step. -/
def step (words : Array (BitVec 32)) (s : State) (i : Nat) : State :=
  let (mixed, constant) := mixture s i
  { a := s.a.rotateLeft 5 + mixed + s.e + constant + words.getD i 0
    b := s.a, c := s.b.rotateLeft 30, d := s.c, e := s.d }

/-- The state after one more block. -/
def afterBlock (s : State) (block : Raw) : State :=
  let words := (List.range' 16 64).foldl drawnOut (bigWords 32 block)
  let t := (List.range 80).foldl (step words) s
  { a := s.a + t.a, b := s.b + t.b, c := s.c + t.c, d := s.d + t.d, e := s.e + t.e }

/-- **Digest** of a text. -/
def digest (r : Raw) : Raw :=
  let s := (parts 64 (filled 64 8 (bigBytes 8) r)).foldl afterBlock .start
  [s.a, s.b, s.c, s.d, s.e].flatMap fun word => bigBytes 4 word.toNat

end MapAudit.Digest.Sha1

namespace MapAudit.Digest.Sha2

/-- **Family** of digests that are made from words of one width. -/
structure Family where
  /-- How many bits a word has. -/
  width : Nat
  /-- How many steps there are. -/
  steps : Nat
  /-- By how many bits the first word is turned. -/
  firstTurns : List Nat
  /-- By how many bits the fifth word is turned. -/
  fifthTurns : List Nat
  /-- By how many bits a word is turned that a block is drawn out with, and by how many it
      is shifted. -/
  farTurns : List Nat × Nat
  /-- The same for a word that was used more recently. -/
  nearTurns : List Nat × Nat

/-- The family with words of 32 bits. -/
def narrow : Family where
  width := 32
  steps := 64
  firstTurns := [2, 13, 22]
  fifthTurns := [6, 11, 25]
  farTurns := ([7, 18], 3)
  nearTurns := ([17, 19], 10)

/-- The family with words of 64 bits. -/
def wide : Family where
  width := 64
  steps := 80
  firstTurns := [28, 34, 39]
  fifthTurns := [14, 18, 41]
  farTurns := ([1, 8], 7)
  nearTurns := ([19, 61], 6)

/-! ## Constants -/

/-- The primes below a number. -/
def primesBelow (n : Nat) : List Nat :=
  (List.range n).filter fun p => 1 < p && (List.range' 2 (p - 2)).all fun d => p % d ≠ 0

/-- The greatest number whose power is at most `n`, found bit by bit. -/
def root (power n : Nat) : Nat :=
  (List.range (n.log2 / power + 1)).reverse.foldl (fun found i =>
    let next := found + (1 <<< i)
    if Nat.pow next power ≤ n then next else found) 0

/-- The first bits of the fraction of a root of a number. -/
def rootFraction (power w n : Nat) : BitVec w :=
  BitVec.ofNat w (root power (n <<< (power * w)))

namespace Family

/-- The constants of the steps. -/
def constants (f : Family) : Array (BitVec f.width) :=
  (((primesBelow 410).take f.steps).map (rootFraction 3 f.width)).toArray

/-- The fractions of the square roots of eight primes after the first ones. -/
def squareRoots (f : Family) (after : Nat) : List (BitVec f.width) :=
  (((primesBelow 60).drop after).take 8).map (rootFraction 2 f.width)

end Family

/-! ## Mixing -/

/-- **State**: the words that are mixed with the blocks. -/
abbrev State (f : Family) := Array (BitVec f.width)

/-- A word turned in several ways at once, and perhaps shifted. -/
def turned {w : Nat} (word : BitVec w) (turns : List Nat) (shift : Option Nat) : BitVec w :=
  turns.foldl (fun mixed turn => mixed ^^^ word.rotateRight turn)
    (match shift with
      | some n => word >>> n
      | none => 0)

/-- A block drawn out by one more word. -/
def drawnOut (f : Family) (words : Array (BitVec f.width)) (i : Nat) : Array (BitVec f.width) :=
  let word (k : Nat) : BitVec f.width := words.getD (i - k) 0
  words.push (word 16 + turned (word 15) f.farTurns.1 (some f.farTurns.2) + word 7
    + turned (word 2) f.nearTurns.1 (some f.nearTurns.2))

/-- A step, with the constant and the word that it adds. -/
def step (f : Family) (s : State f) (added : BitVec f.width) : State f :=
  let word (k : Nat) : BitVec f.width := s.getD k 0
  let choice := (word 4 &&& word 5) ^^^ (~~~(word 4) &&& word 6)
  let majority := (word 0 &&& word 1) ^^^ (word 0 &&& word 2) ^^^ (word 1 &&& word 2)
  let first := word 7 + turned (word 4) f.fifthTurns none + choice + added
  let second := turned (word 0) f.firstTurns none + majority
  #[first + second, word 0, word 1, word 2, word 3 + first, word 4, word 5, word 6]

/-- The state after one more block. -/
def afterBlock (f : Family) (constants : Array (BitVec f.width)) (s : State f) (block : Raw) :
    State f :=
  let words := (List.range' 16 (f.steps - 16)).foldl (drawnOut f) (bigWords f.width block)
  let t := (List.range f.steps).foldl (fun t i =>
    step f t (constants.getD i 0 + words.getD i 0)) s
  s.zipWith (· + ·) t

/-- The digest of a text: so many bytes of the words after the last block. -/
def digestFrom (f : Family) (start : List (BitVec f.width)) (size : Nat) (r : Raw) : Raw :=
  let blockSize := 2 * f.width
  let lengthSize := f.width / 4
  let constants := f.constants
  let s := (parts blockSize (filled blockSize lengthSize (bigBytes lengthSize) r)).foldl
    (afterBlock f constants) start.toArray
  (s.toList.flatMap fun word => bigBytes (f.width / 8) word.toNat).take size

/-- **Digest** of 28 bytes. -/
def digest224 (r : Raw) : Raw :=
  digestFrom narrow ((wide.squareRoots 8).map fun word => BitVec.ofNat 32 word.toNat) 28 r

/-- **Digest** of 32 bytes. -/
def digest256 (r : Raw) : Raw :=
  digestFrom narrow (narrow.squareRoots 0) 32 r

/-- **Digest** of 48 bytes. -/
def digest384 (r : Raw) : Raw :=
  digestFrom wide (wide.squareRoots 8) 48 r

/-- **Digest** of 64 bytes. -/
def digest512 (r : Raw) : Raw :=
  digestFrom wide (wide.squareRoots 0) 64 r

end MapAudit.Digest.Sha2

namespace MapAudit.Digest.Blake2

/-- **Word** of a block. -/
abbrev Word := BitVec 64

/-- The orders in which the rounds take the words of a block. -/
def orders : Array (Array Nat) := #[
  #[0, 1, 2, 3, 4, 5, 6, 7, 8, 9, 10, 11, 12, 13, 14, 15],
  #[14, 10, 4, 8, 9, 15, 13, 6, 1, 12, 0, 2, 11, 7, 5, 3],
  #[11, 8, 12, 0, 5, 2, 15, 13, 10, 14, 3, 6, 7, 1, 9, 4],
  #[7, 9, 3, 1, 13, 12, 11, 14, 2, 6, 5, 10, 4, 0, 15, 8],
  #[9, 0, 5, 7, 2, 4, 10, 15, 14, 1, 11, 12, 6, 8, 3, 13],
  #[2, 12, 6, 10, 0, 11, 8, 3, 4, 13, 7, 5, 15, 14, 1, 9],
  #[12, 5, 1, 15, 14, 13, 4, 10, 0, 7, 6, 3, 9, 2, 8, 11],
  #[13, 11, 7, 14, 12, 1, 3, 9, 5, 0, 15, 4, 8, 6, 2, 10],
  #[6, 15, 14, 9, 11, 3, 0, 8, 12, 2, 13, 7, 1, 4, 10, 5],
  #[10, 2, 8, 4, 7, 6, 1, 5, 15, 11, 9, 14, 3, 12, 13, 0]]

/-- The words of the square that are mixed with each other. -/
def groups : List (Nat × Nat × Nat × Nat) :=
  [(0, 4, 8, 12), (1, 5, 9, 13), (2, 6, 10, 14), (3, 7, 11, 15),
    (0, 5, 10, 15), (1, 6, 11, 12), (2, 7, 8, 13), (3, 4, 9, 14)]

/-- The words before the first block, without regard to the length of the digest. -/
def constants : Array Word :=
  ((Sha2.wide.squareRoots 0).map fun word => BitVec.ofNat 64 word.toNat).toArray

/-- Mixes four words of the square with two words of the block. -/
def mix (square : Array Word) (group : Nat × Nat × Nat × Nat) (x y : Word) : Array Word :=
  let (i, j, k, l) := group
  let a := square.getD i 0 + square.getD j 0 + x
  let d := (square.getD l 0 ^^^ a).rotateRight 32
  let c := square.getD k 0 + d
  let b := (square.getD j 0 ^^^ c).rotateRight 24
  let a := a + b + y
  let d := (d ^^^ a).rotateRight 16
  let c := c + d
  let b := (b ^^^ c).rotateRight 63
  (((square.setIfInBounds i a).setIfInBounds j b).setIfInBounds k c).setIfInBounds l d

/-- A round. -/
def round (block square : Array Word) (i : Nat) : Array Word :=
  let order := orders.getD (i % 10) #[]
  groups.zipIdx.foldl (fun square (group, k) =>
    mix square group (block.getD (order.getD (2 * k) 0) 0)
      (block.getD (order.getD (2 * k + 1) 0) 0)) square

/-- The words after one more block, up to whose end there are so many bytes. -/
def afterBlock (words : Array Word) (count : Nat) (isLast : Bool) (block : Raw) : Array Word :=
  let square := words ++ constants
  let square := square.modify 12 (· ^^^ BitVec.ofNat 64 count)
  let square := if isLast then square.modify 14 (~~~ ·) else square
  let square := (List.range 12).foldl (round (littleWords 64 block)) square
  words.mapIdx fun i word => word ^^^ square.getD i 0 ^^^ square.getD (i + 8) 0

/-- **Digest** of a text, of so many bytes. -/
def digest (size : Nat) (r : Raw) : Raw :=
  let start := constants.modify 0 (· ^^^ BitVec.ofNat 64 (0x01010000 + size))
  let blocks := if r.isEmpty then [[]] else parts 128 r
  let words := blocks.zipIdx.foldl (fun words (block, i) =>
    let isLast := i + 1 = blocks.length
    let whole := block ++ List.replicate (128 - block.length) '\x00'
    afterBlock words (128 * i + block.length) isLast whole) start
  (words.toList.flatMap fun word => littleBytes 8 word.toNat).take size

end MapAudit.Digest.Blake2
