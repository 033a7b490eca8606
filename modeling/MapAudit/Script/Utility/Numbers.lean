import MapAudit.Script.Utility.Lines

/-! # Numbers

    `factor` writes numbers as products of prime numbers, and `shuf` writes lines or
    numbers in some other order.
-/

namespace MapAudit.Script

namespace Utility

open Procedure

/-! ## Prime factors -/

namespace Prime

/-- The power of a number modulo another one. At most `n` binary digits of the exponent are
    looked at. -/
def powerMod (modulus : Nat) : (n : Nat) → (base exponent : Nat) → Nat
  | 0, _, _ => 1 % modulus
  | n + 1, base, exponent =>
    if exponent = 0 then 1 % modulus
    else
      let rest := powerMod modulus n (base * base % modulus) (exponent / 2)
      if exponent % 2 = 1 then rest * base % modulus else rest

/-- Whether a square in a row of `n` leads to minus one. -/
def reaches (modulus : Nat) : (n : Nat) → (x : Nat) → Bool
  | 0, _ => false
  | n + 1, x => x = modulus - 1 || reaches modulus n (x * x % modulus)

/-- How often two divides a number, at most `n` times, and what is left. -/
def halved : (n : Nat) → (x : Nat) → Nat × Nat
  | 0, x => (0, x)
  | n + 1, x =>
    if x % 2 = 0 && x ≠ 0 then
      let (k, rest) := halved n (x / 2)
      (k + 1, rest)
    else (0, x)

/-- Whether a number that is odd and greater than two passes for a prime number with all
    small bases. Below 3317044064679887385961981 no other number does. -/
def isProbable (x : Nat) : Bool :=
  let size := x.log2 + 1
  let (k, odd) := halved size (x - 1)
  [2, 3, 5, 7, 11, 13, 17, 19, 23, 29, 31, 37, 41].all fun base =>
    base % x = 0 ||
      let y := powerMod x size (base % x) odd
      y = 1 || reaches x k y

/-- Divides a number by `d` and greater odd numbers, `n` of them. The answer has the
    divisors that were found, what is left and the next number to divide by. -/
def divided : (n : Nat) → (d x : Nat) → List Nat × Nat × Nat
  | 0, d, x => ([], x, d)
  | n + 1, d, x =>
    if x < d * d then ([], x, d)
    else if x % d = 0 then
      let (found, rest) := divided n d (x / d)
      (d :: found, rest)
    else divided n (if d = 2 then 3 else d + 2) x

/-- A divisor of a number, which is looked for in `n` steps of a walk. -/
def divisor? (x c : Nat) : (n : Nat) → (slow fast : Nat) → Option Nat
  | 0, _, _ => none
  | n + 1, slow, fast =>
    let next (y : Nat) : Nat := (y * y + c) % x
    let slow := next slow
    let fast := next (next fast)
    let d := Nat.gcd (if slow < fast then fast - slow else slow - fast) x
    if d = 1 then divisor? x c n slow fast else if d = x then none else some d

/-- The prime factors of a number without small ones, which is divided at most `n` times. -/
def largeFactors : (n : Nat) → (x : Nat) → List Nat
  | 0, x => [x]
  | n + 1, x =>
    if x = 1 then [] else if isProbable x then [x]
    else match (List.range 20).findSome? fun c => divisor? x (c + 1) 2000000 2 2 with
      | some d => largeFactors n d ++ largeFactors n (x / d)
      | none => [x]

/-- The prime factors of a number, in order. -/
def factors (x : Nat) : List Nat :=
  if x < 2 then []
  else
    let (small, rest, d) := divided 100000 2 x
    if rest = 1 then small
    else if rest < d * d then small ++ [rest]
    else small ++ (largeFactors 64 rest).mergeSort

end Prime

/-- The options of `factor`. -/
def factorOptions : OptionTable where
  letters := "h"
  names := [("exponents", 'h')]

/-- Writes a number as a product. The answer is a status. -/
def factorOne (withPowers : Bool) (r : Raw) : Procedure Nat := do
  let digits := r.dropWhile (· = ' ')
  let digits := if digits.head? = some '+' then digits.drop 1 else digits
  match Raw.toNat? digits with
  | none => do
    tell (Quote.curly r ++ " is not a valid positive integer".toList)
    return 1
  | some n => do
    let factors := Prime.factors n
    let shown := if withPowers then
        (factors.splitBy (· == ·)).map fun group =>
          let power := if 1 < group.length then '^' :: Raw.ofNat group.length else []
          Raw.ofNat (group.headD 0) ++ power
      else factors.map Raw.ofNat
    write (Raw.ofNat n ++ ':' :: (shown.flatMap (' ' :: ·)) ++ ['\n'])
    return 0

/-- Writes numbers as products. -/
def factor (arguments : List Raw) : Procedure Nat := do
  let a ← readArguments factorOptions arguments
  if !a.operands.isEmpty then return (← forEach a.operands (factorOne (a.has 'h')))
  let isGap (c : Char) : Bool := c = ' ' || c = '\t' || c = '\n'
  let words := (← readInput).splitBy fun c d => isGap c = isGap d
  forEach (words.filter (!·.any isGap)) (factorOne (a.has 'h'))

/-! ## Another order -/

/-- The options of `shuf`. -/
def shufOptions : OptionTable where
  letters := "ei:n:o:rz"
  names := [("echo", 'e'), ("input-range=", 'i'), ("head-count=", 'n'), ("output=", 'o'),
    ("random-source=", 'R'), ("repeat", 'r'), ("zero-terminated", 'z')]

/-- Elements in another order, `n` of them, with the state of a generator of numbers. -/
def shuffled {α : Type} : (n : Nat) → (state : Nat) → List α → List α
  | 0, _, _ => []
  | n + 1, state, xs =>
    let state := (state * 6364136223846793005 + 1442695040888963407) % 18446744073709551616
    let i := state / 65536 % xs.length
    match xs[i]? with
    | some x => x :: shuffled n state (xs.eraseIdx i)
    | none => []

/-- Elements that are drawn again and again, `n` of them. -/
def drawn {α : Type} : (n : Nat) → (state : Nat) → List α → List α
  | 0, _, _ => []
  | n + 1, state, xs =>
    let state := (state * 6364136223846793005 + 1442695040888963407) % 18446744073709551616
    match xs[state / 65536 % xs.length]? with
    | some x => x :: drawn n state xs
    | none => []

/-- The numbers of a range. -/
def demandRange (r : Raw) : Procedure (List Raw) := do
  let low := r.takeWhile (· ≠ '-')
  match Raw.toNat? low, (r.drop low.length).head?, Raw.toNat? (r.drop (low.length + 1)) with
  | some low, some _, some high =>
    if low ≤ high + 1 then
      return (List.range' low (high + 1 - low)).map Raw.ofNat
    else refuse 1 ("invalid input range: ".toList ++ Quote.curly r)
  | _, _, _ => refuse 1 ("invalid input range: ".toList ++ Quote.curly r)

/-- Writes lines or numbers in another order. -/
def shuf (arguments : List Raw) : Procedure Nat := do
  let a ← readArguments shufOptions arguments
  let limits ← (a.values 'n').mapM fun r => do
    match Raw.toNat? r with
    | some n => return n
    | none => refuse 1 ("invalid line count: ".toList ++ Quote.curly r)
  let range ← (a.value? 'i').mapM demandRange
  if a.has 'e' && a.has 'i' then refuseUse 1 "cannot combine -e and -i options".toList
  let finish := if a.has 'z' then '\x00' else '\n'
  let items ← match range with
    | some numbers => do
      refuseExtra 1 0 a
      pure numbers
    | none =>
      if a.has 'e' then pure a.operands
      else do
        refuseExtra 1 1 a
        let file := a.operands.headD ['-']
        match ← readOperand file with
        | .ok r => pure (partsOf finish r)
        | .error fault => refuse 1 (Quote.asNeeded file ++ ": ".toList ++ faultText fault)
  let state := (← get).machine.now
  let limit := limits.min?
  let shown ← if a.has 'r' then do
      if items.isEmpty && limit ≠ some 0 then refuse 1 "no lines to repeat".toList
      pure (drawn (limit.getD 100000) state items)
    else pure (shuffled (min items.length (limit.getD items.length)) state items)
  let r := shown.flatMap (· ++ [finish])
  match a.value? 'o' with
  | none => write r
  | some file =>
    match ← withOpen .replace file fun i => pour i r with
    | .ok _ => pure ()
    | .error fault => refuse 1 (Quote.asNeeded file ++ ": ".toList ++ faultText fault)
  return 0

end Utility

end MapAudit.Script
