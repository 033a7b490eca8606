/-! # JSON values

    A value keeps what its text said: the members of an object stay in their
    order with repeated keys, and a number keeps the parts of its literal, so
    that an integer can be told from a decimal that happens to be whole.

    A text can have the form of a value without standing for one: with half a
    character in a string, with a number beyond all doubles, or with arrays
    inside each other too many times. Readers that let such a value pass need
    its form only; all others ask `isSound` first.
-/

namespace MapAudit

/-- **Number literal** of a JSON text. -/
structure Json.Number where
  /-- Whether a minus sign stands in front. -/
  negative : Bool
  /-- The digits before the point. -/
  whole : List Nat
  /-- The digits after the point; there is no point when there are none. -/
  fraction : List Nat
  /-- The power of ten, when one is written. -/
  exponent : Option Int
  deriving DecidableEq, Repr

/-- **JSON value**. -/
inductive Json where
  /-- A string with half a character, or an object with such a key: it stands
      for no value. -/
  | unreadable
  /-- The value `null`. -/
  | null
  /-- A truth value. -/
  | bool (b : Bool)
  /-- A number. -/
  | number (n : Json.Number)
  /-- A text. -/
  | string (s : String)
  /-- A list of values. -/
  | array (items : List Json)
  /-- A list of keys with their values, in the order of the text. -/
  | object (members : List (String × Json))
  deriving Repr

namespace Json

/-- The decimal digits of a natural number. -/
def digitsOf (n : Nat) : List Nat :=
  (Nat.toDigits 10 n).map fun c => c.toNat - '0'.toNat

/-- The number written with the decimal digits of `n` alone. -/
def Number.ofNat (n : Nat) : Number where
  negative := false
  whole := digitsOf n
  fraction := []
  exponent := none

/-- The natural number of a literal without sign, point and exponent. -/
def Number.toNat? (n : Number) : Option Nat :=
  if n.negative = false ∧ n.fraction = [] ∧ n.exponent = none then
    some (n.whole.foldl (fun value d => 10 * value + d) 0)
  else none

/-! ## Size of numbers -/

/-- A number with the bits after the first fifty-three rounded off. A half goes
    to the even neighbour. -/
def roundBits (n : Nat) : Nat :=
  let extra := n.log2 - 52
  let unit := 1 <<< extra
  let kept := n / unit
  let rest := 2 * (n % unit)
  (if rest < unit || (rest == unit && kept % 2 == 0) then kept else kept + 1) * unit

/-- The digits of a literal that fit into a 64-bit word, as a whole number, and
    how many digits at the end do not fit. -/
def takeDigits : (significand : Nat) → List Nat → Nat × Nat
  | significand, [] => (significand, 0)
  | significand, d :: rest =>
    let more := 10 * significand + d
    if more < 0x10000000000000000 then takeDigits more rest else (significand, rest.length + 1)

/-- Whether a literal can be read as a double-precision number. Reading it takes
    as many digits as fit into a word, rounds them, and multiplies them by a
    rounded power of ten; each of these steps must stay below infinity. -/
def Number.isFinite (n : Number) : Bool :=
  let (whole, beyond) := takeDigits 0 n.whole
  let (significand, dropped) := takeDigits whole n.fraction
  let power : Int := beyond - ((n.fraction.length - dropped : Nat) : Int) + n.exponent.getD 0
  -- half a unit in the last place above the largest double
  let limit := 1 <<< 1024 - 1 <<< 970
  if significand = 0 ∨ power < 0 then true
  else if 308 < power then false
  else roundBits significand * roundBits (Nat.pow 10 power.toNat) < limit

/-- A natural number as a value. -/
def ofNat (n : Nat) : Json :=
  .number (.ofNat n)

/-- A natural number, or `null`. -/
def ofNat? : Option Nat → Json
  | none => .null
  | some n => .ofNat n

/-- A text, or `null`. -/
def ofString? : Option String → Json
  | none => .null
  | some s => .string s

/-! ## Soundness -/

mutual

/-- Whether a value stands for what its text says, and has at most `room` arrays
    and objects inside each other. -/
def isSound (room : Nat) : Json → Bool
  | .unreadable => false
  | .null => true
  | .bool _ => true
  | .number n => n.isFinite
  | .string _ => true
  | .array items => 0 < room && areSound (room - 1) items
  | .object members => 0 < room && membersAreSound (room - 1) members

/-- Whether all items of an array are sound. -/
def areSound (room : Nat) : List Json → Bool
  | [] => true
  | v :: rest => isSound room v && areSound room rest

/-- Whether all members of an object are sound. -/
def membersAreSound (room : Nat) : List (String × Json) → Bool
  | [] => true
  | m :: rest => memberIsSound room m && membersAreSound room rest

/-- Whether the value of a member is sound. -/
def memberIsSound (room : Nat) : String × Json → Bool
  | (_, v) => isSound room v

end

end Json

end MapAudit
