import MapAudit.Script.Cursor

/-! # Arithmetic

    A shell computes with whole numbers of 64 bits. An expression is read into a
    tree first. Its operators bind in a fixed order, and those that bind alike
    are applied from left to right. A comparison is one where it holds and zero
    elsewhere.

    What an expression does with variables is left to a ledger, so that it can
    be computed in any surroundings that have variables.
-/

namespace MapAudit.Script

/-- An operator between two numbers. -/
inductive Operation where
  | add | subtract | multiply | divide | remainder | power
  | shiftLeft | shiftRight | bitAnd | bitOr | bitXor
  | equal | unequal | less | atMost | greater | atLeast
  deriving DecidableEq, Repr

/-- **Expression**. -/
inductive Expression where
  /-- A number. -/
  | number (n : Int)
  /-- The value of a variable, perhaps at an index. -/
  | named (name : Raw) (index : Option Raw)
  /-- The opposite number. -/
  | negative (e : Expression)
  /-- One for zero, and zero for all else. -/
  | not (e : Expression)
  /-- All bits turned round. -/
  | complement (e : Expression)
  /-- An operator between two numbers, and the text that is pointed at where it has no
      value. -/
  | apply (o : Operation) (a b : Expression) (pointed : Raw)
  /-- Whether both are not zero. The second is computed if the first is not. -/
  | both (a b : Expression)
  /-- Whether one is not zero. The second is computed if the first is. -/
  | either (a b : Expression)
  /-- The second if the first is not zero, and the third if it is. -/
  | choice (c a b : Expression)
  /-- An assignment, perhaps of what an operator makes of the old value, and the text that
      is pointed at where that has no value. -/
  | assign (name : Raw) (index : Option Raw) (o : Option Operation) (e : Expression) (pointed : Raw)
  /-- A change of a variable by a number. The value is the old or the new one. -/
  | change (name : Raw) (index : Option Raw) (step : Int) (givesOld : Bool)
  /-- The first for what it does, and then the second. -/
  | sequence (a b : Expression)
  deriving Repr

/-- Why a text is no expression. -/
inductive ExpressionCause where
  /-- A number or a variable has to stand here. -/
  | operand
  /-- The text should have ended. -/
  | tooLong
  /-- A parenthesis is not closed. -/
  | parenthesis
  /-- There is no second part of a choice. -/
  | colon
  /-- There is nothing after the colon of a choice. -/
  | lastPart
  /-- There is no such operator. -/
  | unknownOperator
  /-- A value is given to what is no variable. -/
  | noVariable
  /-- A digit is too great. -/
  | badDigit
  /-- There is no such base. -/
  | badBase
  /-- A base is given where there is one. -/
  | badNumber
  /-- There are no digits after a base. -/
  | noDigits
  /-- An index is not closed. -/
  | badIndex
  deriving DecidableEq, Repr

/-- A fault in an expression, and the text from there on. -/
structure ExpressionFault where
  /-- What is wrong. -/
  cause : ExpressionCause
  /-- The text from there on. -/
  rest : Raw
  /-- How much of that text is a number that cannot be read, so that nothing after it
      counts. -/
  badLength : Option Nat

namespace Expression

/-! ## Numbers -/

/-- The number with the same 64 bits. -/
def wrap (n : Int) : Int :=
  Int.bmod n 18446744073709551616

/-- The greatest number. -/
def maximum : Int := 9223372036854775807

/-- The value of a digit in bases up to 64. -/
def digitValue (base : Nat) (c : Char) : Option Nat :=
  if c.isDigit then some (c.toNat - '0'.toNat)
  else if 'a' ≤ c && c ≤ 'z' then some (c.toNat - 'a'.toNat + 10)
  else if 'A' ≤ c && c ≤ 'Z' then some (c.toNat - 'A'.toNat + (if base ≤ 36 then 10 else 36))
  else if c = '@' then some 62
  else if c = '_' then some 63
  else none

/-- The value of the digits at the start of a text, as far as they are digits in
    a base, and the text after them. -/
def digits (base : Nat) (r : Raw) : Nat × Raw :=
  let run := r.takeWhile fun c => (digitValue base c).any (· < base)
  (run.foldl (fun n c => base * n + (digitValue base c).getD 0) 0, r.drop run.length)

/-- The number at the start of a text: decimal, or octal after a zero, or
    hexadecimal after a zero and an `x`. Too great a number becomes the greatest
    one. -/
def plainNumber (r : Raw) : Int × Raw :=
  let (n, rest) := match r with
    | '0' :: x :: d :: rest =>
      if (x = 'x' || x = 'X') && Raw.isHex d then digits 16 (d :: rest)
      else digits 8 r
    | '0' :: _ => digits 8 r
    | r => digits 10 r
  (min (n : Int) maximum, rest)

/-- The number that digits of a base are, in the richer dialect, or why they are none. -/
def richDigits (base : Nat) (r : Raw) : Except ExpressionCause Int :=
  let (n, rest) := digits base r
  match rest with
  | [] => .ok (wrap n)
  | '#' :: _ => .error .badNumber
  | _ => .error .badDigit

/-- The number that a word is, in any base, in the richer dialect, or why it is none. -/
def richNumber (r : Raw) : Except ExpressionCause Int :=
  match r with
  | ['0'] => .ok 0
  | '0' :: 'x' :: body | '0' :: 'X' :: body => richDigits 16 body
  | '0' :: body => richDigits 8 body
  | r =>
    let (base, rest) := digits 10 r
    match rest with
    | '#' :: body =>
      if base < 2 || 64 < base then .error .badBase
      else if !(body.head?.any fun c => c.isAlphanum || c = '@' || c = '_') then .error .noDigits
      else richDigits base body
    | _ => richDigits 10 r

/-! ## Operators -/

/-- The value of an operator between two numbers. There is none by zero, nor for a power
    below zero. -/
def operate (o : Operation) (a b : Int) : Option Int :=
  let truth (p : Bool) : Option Int := some (if p then 1 else 0)
  let bits (f : Nat → Nat → Nat) : Option Int :=
    some (wrap (f (a % 18446744073709551616).toNat (b % 18446744073709551616).toNat))
  match o with
  | .add => some (wrap (a + b))
  | .subtract => some (wrap (a - b))
  | .multiply => some (wrap (a * b))
  | .divide => if b = 0 then none else some (wrap (a.tdiv b))
  | .remainder => if b = 0 then none else some (a.tmod b)
  | .power => if b < 0 then none else some (wrap (Int.pow a b.toNat))
  | .shiftLeft => some (wrap (a * ((1 <<< (b % 64).toNat : Nat) : Int)))
  | .shiftRight => some (a.fdiv ((1 <<< (b % 64).toNat : Nat) : Int))
  | .bitAnd => bits (· &&& ·)
  | .bitOr => bits (· ||| ·)
  | .bitXor => bits (· ^^^ ·)
  | .equal => truth (a == b)
  | .unequal => truth (a != b)
  | .less => truth (a < b)
  | .atMost => truth (a ≤ b)
  | .greater => truth (b < a)
  | .atLeast => truth (b ≤ a)

/-- The operators of every level, from the one that binds least on. -/
def levels (d : Dialect) : List (List (String × Operation)) :=
  [[("|", .bitOr)], [("^", .bitXor)], [("&", .bitAnd)],
    [("==", .equal), ("!=", .unequal)],
    [("<=", .atMost), (">=", .atLeast), ("<", .less), (">", .greater)],
    [("<<", .shiftLeft), (">>", .shiftRight)],
    [("+", .add), ("-", .subtract)],
    [("*", .multiply), ("/", .divide), ("%", .remainder)]]
    ++ (match d with
      | .sh => []
      | .bash => [[("**", .power)]])

/-- The operators that can stand before an equals sign. -/
def assigning : List (String × Operation) :=
  [("+=", .add), ("-=", .subtract), ("*=", .multiply), ("/=", .divide), ("%=", .remainder),
    ("<<=", .shiftLeft), (">>=", .shiftRight), ("&=", .bitAnd), ("|=", .bitOr), ("^=", .bitXor)]

/-! ## Reading -/

/-- A mark of an expression: a number, a name or an operator. -/
inductive Mark where
  /-- A number. -/
  | number (n : Int)
  /-- A name, perhaps with the text of an index. -/
  | name (r : Raw) (index : Option Raw)
  /-- An operator. -/
  | operator (text : String)
  /-- What is none of these. -/
  | wrong (cause : ExpressionCause)
  deriving DecidableEq, Repr

/-- The operators, longer ones first. -/
def operators (d : Dialect) : List String :=
  ["<<=", ">>="]
    ++ (match d with
      | .sh => []
      | .bash => ["**", "++", "--", ","])
    ++ ["||", "&&", "==", "!=", "<=", ">=", "<<", ">>", "+=", "-=", "*=", "/=", "%=", "&=", "|=",
      "^=", "|", "&", "^", "<", ">", "+", "-", "*", "/", "%", "!", "~", "?", ":", "=", "(", ")"]

/-- The text up to the bracket that closes one which is open already, and the text
    after it. -/
def indexText? : (depth : Nat) → Raw → Option (Raw × Raw)
  | _, [] => none
  | 0, ']' :: rest => some ([], rest)
  | depth, c :: rest =>
    let depth := if c = '[' then depth + 1 else if c = ']' then depth - 1 else depth
    (indexText? depth rest).map fun (index, after) => (c :: index, after)

/-- The mark at the start of a text without blanks before it, and the text after
    it. -/
def markOf (d : Dialect) (r : Raw) : Mark × Raw :=
  match r with
  | [] => (.wrong .operand, [])
  | c :: rest =>
    if c.isDigit then
      match d with
      | .sh =>
        let (n, rest) := plainNumber r
        (.number n, rest)
      | .bash =>
        let word := r.takeWhile fun c => Reader.inName c || c == '#' || c == '@'
        match richNumber word with
        | .ok n => (.number n, r.drop word.length)
        | .error cause => (.wrong cause, r.drop word.length)
    else if Reader.beginsName c then
      let name := r.takeWhile Reader.inName
      match d, r.drop name.length with
      | .bash, '[' :: rest =>
        match indexText? 0 rest with
        | some (index, rest) => (.name name (some index), rest)
        | none => (.wrong .badIndex, [])
      | _, rest => (.name name none, rest)
    else
      match (operators d).find? (·.toList.isPrefixOf r) with
      | some t => (.operator t, r.drop t.length)
      | none => (.wrong .unknownOperator, rest)

/-- Whether a character is a blank. -/
def isBlank (c : Char) : Bool :=
  c == ' ' || c == '\t' || c == '\n'

/-- The marks of a text, at most `n` of them, each with the text that it begins. -/
def marksUpTo (d : Dialect) : (n : Nat) → Raw → List (Mark × Raw)
  | 0, _ => []
  | n + 1, r =>
    match r.dropWhile isBlank with
    | [] => []
    | c :: rest =>
      let (mark, after) := markOf d (c :: rest)
      (mark, c :: rest) :: marksUpTo d n after

/-- Marks while an expression is read: those that are left, and the last one that
    was read. -/
structure Marks where
  /-- The marks that are left, each with the text that it begins. -/
  left : List (Mark × Raw)
  /-- The text that the last mark begins. -/
  last : Raw

/-- A reader of part of an expression. -/
abbrev MarkReader := StateT Marks (Except ExpressionFault)

namespace MarkReader

/-- The next mark. -/
def peek? : MarkReader (Option Mark) := do
  return (← get).left.head?.map (·.1)

/-- Goes over the next mark. -/
def skip : MarkReader Unit :=
  modify fun m => match m.left with
    | [] => m
    | (_, r) :: left => { left, last := r }

/-- The text from the next mark on, or from the last one if there is no other. -/
def pointed : MarkReader Raw := do
  let m ← get
  return match m.left with
    | (_, r) :: _ => r
    | [] => m.last

/-- Fails at the next mark, or at the last one if there is no other. -/
def fail {α : Type} (cause : ExpressionCause) : MarkReader α := do
  throw { cause, rest := ← pointed, badLength := none }

/-- Fails at the next mark, which is a number that cannot be read. -/
def failAtNumber {α : Type} (cause : ExpressionCause) : MarkReader α := do
  let rest ← pointed
  let word := rest.takeWhile fun c => Reader.inName c || c == '#' || c == '@'
  throw { cause, rest := word, badLength := some (rest.length - word.length) }

/-- Goes over an operator if it is the next mark. -/
def skipIf (text : String) : MarkReader Bool := do
  if (← peek?) = some (.operator text) then
    skip
    return true
  return false

end MarkReader

open MarkReader

mutual

/-- Reads an expression with assignments in it. -/
def readAssignment (d : Dialect) : (steps : Nat) → MarkReader Expression
  | 0 => fail .operand
  | steps + 1 => do
    let start ← get
    match ← peek? with
    | some (.name name index) => do
      skip
      match ← peek? with
      | some (.operator "=") => do
        skip
        return .assign name index none (← readAssignment d steps) []
      | some (.operator t) =>
        match assigning.lookup t with
        | some o => do
          skip
          let e ← readAssignment d steps
          return .assign name index (some o) e (← pointed)
        | none => do
          set start
          readChoice d steps
      | _ => do
        set start
        readChoice d steps
    | _ => do
      let e ← readChoice d steps
      if d = .bash && (← peek?) = some (.operator "=") then fail .noVariable
      return e

/-- Reads a choice between two expressions. -/
def readChoice (d : Dialect) : (steps : Nat) → MarkReader Expression
  | 0 => fail .operand
  | steps + 1 => do
    let c ← readEither d steps
    if ← skipIf "?" then
      let a ← readAssignment d steps
      if !(← skipIf ":") then
        let m ← get
        if m.left.isEmpty then throw { cause := .colon, rest := m.last, badLength := none }
        fail .colon
      if (← get).left.isEmpty then fail .lastPart
      return .choice c a (← readChoice d steps)
    else return c

/-- Reads expressions of which one is to be true. -/
def readEither (d : Dialect) : (steps : Nat) → MarkReader Expression
  | 0 => fail .operand
  | steps + 1 => do
    let a ← readBoth d steps
    if ← skipIf "||" then return .either a (← readEither d steps) else return a

/-- Reads expressions of which both are to be true. -/
def readBoth (d : Dialect) : (steps : Nat) → MarkReader Expression
  | 0 => fail .operand
  | steps + 1 => do
    let a ← readLevel d steps (levels d)
    if ← skipIf "&&" then return .both a (← readBoth d steps) else return a

/-- Reads an expression with the operators of some levels. -/
def readLevel (d : Dialect) : (steps : Nat) → List (List (String × Operation)) →
    MarkReader Expression
  | 0, _ => fail .operand
  | steps + 1, [] => readOperand d steps
  | steps + 1, here :: tighter => do
    readMore d steps here tighter (← readLevel d steps tighter)

/-- Reads the operators of a level and their right sides after a left side. -/
def readMore (d : Dialect) : (steps : Nat) → List (String × Operation) →
    List (List (String × Operation)) → Expression → MarkReader Expression
  | 0, _, _, _ => fail .operand
  | steps + 1, here, tighter, a => do
    match ← peek? with
    | some (.operator t) =>
      match here.lookup t with
      | some .power => do
        skip
        let b ← readLevel d steps (here :: tighter)
        return .apply .power a b (← pointed)
      | some o => do
        skip
        let rest ← pointed
        let b ← readLevel d steps tighter
        readMore d steps here tighter (.apply o a b rest)
      | none => return a
    | _ => return a

/-- Reads a number, a variable, or an expression with a sign before it. -/
def readOperand (d : Dialect) : (steps : Nat) → MarkReader Expression
  | 0 => fail .operand
  | steps + 1 => do
    match ← peek? with
    | some (.number n) => do
      skip
      return .number n
    | some (.name name index) => do
      skip
      if ← skipIf "++" then return .change name index 1 true
      if ← skipIf "--" then return .change name index (-1) true
      return .named name index
    | some (.operator "(") => do
      skip
      let e ← readSequence d steps
      if ← skipIf ")" then return e else fail .parenthesis
    | some (.operator "-") => do
      skip
      return .negative (← readOperand d steps)
    | some (.operator "+") => do
      skip
      readOperand d steps
    | some (.operator "!") => do
      skip
      return .not (← readOperand d steps)
    | some (.operator "~") => do
      skip
      return .complement (← readOperand d steps)
    | some (.operator "++") => readChange d steps 1
    | some (.operator "--") => readChange d steps (-1)
    | some (.wrong .badIndex) => fail .badIndex
    | some (.wrong .unknownOperator) => fail .operand
    | some (.wrong cause) => failAtNumber cause
    | _ => fail .operand

/-- Reads a variable after a sign for a change, or a number after two signs. -/
def readChange (d : Dialect) : (steps : Nat) → Int → MarkReader Expression
  | 0, _ => fail .operand
  | steps + 1, n => do
    skip
    match ← peek? with
    | some (.name name index) => do
      skip
      return .change name index n false
    | _ => readOperand d steps

/-- Reads expressions of which the last one has the value. -/
def readSequence (d : Dialect) : (steps : Nat) → MarkReader Expression
  | 0 => fail .operand
  | steps + 1 => do
    let a ← readAssignment d steps
    if ← skipIf "," then return .sequence a (← readSequence d steps) else return a

end

/-- The expression that a text is read as. -/
def read (d : Dialect) (r : Raw) : Except ExpressionFault Expression := do
  let marks := marksUpTo d (r.length + 1) r
  if d = .bash && marks.isEmpty then return .number 0
  let (e, after) ← (readSequence d (20 * marks.length + 40)).run { left := marks, last := [] }
  match after.left with
  | [] => return e
  | (.wrong .unknownOperator, r) :: _ =>
    throw { cause := .unknownOperator, rest := r, badLength := none }
  | (.wrong .badIndex, r) :: _ => throw { cause := .badIndex, rest := r, badLength := none }
  | (_, r) :: _ => throw { cause := .tooLong, rest := r, badLength := none }

/-! ## Computing -/

/-- **Ledger**: what an expression may do with variables, and what becomes of an operator
    that has no value. Places are where variables have their values. -/
structure Ledger (m : Type → Type) (π : Type) where
  /-- The place of a variable, perhaps at an index. -/
  place : Raw → Option Raw → m π
  /-- The value at a place. -/
  value : π → m Int
  /-- Gives a place a value. -/
  assign : π → Int → m Unit
  /-- What becomes of an operator that has no value, with the text that is pointed at. -/
  noValue : Operation → Raw → m Int

/-- **Value** of an expression. -/
def compute {m : Type → Type} {π : Type} [Monad m] (l : Ledger m π) : Expression → m Int
  | .number n => return n
  | .named name index => do l.value (← l.place name index)
  | .negative e => do return wrap (-(← compute l e))
  | .not e => do return if (← compute l e) = 0 then 1 else 0
  | .complement e => do return -(← compute l e) - 1
  | .apply o a b pointed => do
    let a ← compute l a
    let b ← compute l b
    match operate o a b with
    | some n => return n
    | none => l.noValue o pointed
  | .both a b => do
    if (← compute l a) = 0 then return 0
    return if (← compute l b) = 0 then 0 else 1
  | .either a b => do
    if (← compute l a) ≠ 0 then return 1
    return if (← compute l b) = 0 then 0 else 1
  | .choice c a b => do
    if (← compute l c) = 0 then compute l b else compute l a
  | .assign name index o e pointed => do
    let place ← l.place name index
    let new ← compute l e
    let n ← combined l place o new pointed
    l.assign place n
    return n
  | .change name index n givesOld => do
    let place ← l.place name index
    let old ← l.value place
    l.assign place (wrap (old + n))
    return if givesOld then old else wrap (old + n)
  | .sequence a b => do
    let _ ← compute l a
    compute l b
where
  /-- What an operator makes of the old value at a place and a new one. -/
  combined (l : Ledger m π) (place : π) (o : Option Operation) (new : Int) (pointed : Raw) :
      m Int := do
    match o with
    | none => return new
    | some o =>
      match operate o (← l.value place) new with
      | some n => return n
      | none => l.noValue o pointed

end Expression

end MapAudit.Script
