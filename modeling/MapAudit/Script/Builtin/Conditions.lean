import MapAudit.Script.Slot
import MapAudit.Script.Print.Format

/-! # Conditions

    `test` answers questions about files, texts and numbers by its exit status:
    zero for yes, one for no, two for a question that it does not understand. How
    words are put together to a question depends on the manner.
-/

namespace MapAudit.Script

/-- **Question** of a test, read from words. What is left are the words not yet
    looked at. -/
abbrev Question := StateT (List Raw) Procedure

namespace Question

open Procedure

/-! ## Questions about files -/

/-- Whether a node is a directory. -/
def isDirectory : FileTree → Bool
  | .directory _ _ => true
  | .file _ | .link _ | .pipe _ | .device _ => false

/-- Whether what a letter asks about a file holds. -/
def aboutFile (letter : Char) (r : Raw) : Procedure Bool := do
  if letter = 'h' || letter = 'L' then
    match ← findName r with
    | .ok (.link _) => return true
    | _ => return false
  match ← find r with
  | .error _ => return false
  | .ok node =>
    let may (bit : Nat) : Bool := match node.attributes? with
      | some a => a.permissions.testBit bit
      | none => true
    match letter, node with
    | 'f', .file _ => return true
    | 'd', .directory _ _ => return true
    | 's', .file f => return f.content.size ≠ 0
    | 's', .directory _ _ => return true
    | 'p', .pipe _ => return true
    | 'c', .device _ => return true
    | 'x', .file _ | 'x', .directory _ _ => return may 6
    | 'r', _ => return may 8
    | 'w', _ => return may 7
    | 'a', _ | 'e', _ | 'O', _ | 'G', _ | 'N', _ => return true
    | 'k', .file _ | 'k', .directory _ _ => return may 9
    | 'g', .file _ | 'g', .directory _ _ => return may 10
    | 'u', .file _ | 'u', .directory _ _ => return may 11
    | _, _ => return false

/-- When what a path leads to was changed last. -/
def timeOf? (r : Raw) : Procedure (Option Int) := do
  return match ← find r with
    | .ok node => some ((node.attributes?.map (·.time)).getD Attributes.start)
    | .error _ => none

/-- Whether two paths lead to the same node. -/
def isSame (left right : Raw) : Procedure Bool := do
  match ← locate left, ← find left, ← locate right, ← find right with
  | .ok a, .ok (.file f), .ok b, .ok (.file g) =>
    return a == b || (f.kinship.isSome && f.kinship == g.kinship)
  | .ok a, .ok _, .ok b, .ok _ => return a == b
  | _, _, _, _ => return false

/-! ## Words with a meaning -/

/-- The letter of a word that asks about another one. -/
def unary? (m : Manner) (r : Raw) : Option Char :=
  let letters := "bcdefgGhkLnOprsStuwxz" ++ match m with
    | .sh => ""
    | .bash => "aovNR"
    | .program => "N"
  match r with
  | ['-', c] => if letters.toList.contains c then some c else none
  | _ => none

/-- Whether a word asks about the words at its sides. -/
def isBinary (m : Manner) (r : Raw) : Bool :=
  let words := ["=", "!=", "-eq", "-ne", "-lt", "-le", "-gt", "-ge", "-nt", "-ot", "-ef"] ++ match m with
    | .sh => ["<", ">"]
    | .bash => ["<", ">", "=="]
    | .program => ["=="]
  words.contains (String.ofList r)

/-- Whether a word means something in the plain dialect. -/
def isMeaningful (r : Raw) : Bool :=
  (unary? .sh r).isSome || isBinary .sh r || r = ['!'] || r = ['('] || r = [')']
    || r = ['-', 'a'] || r = ['-', 'o']

/-- Complains about words that make no question. -/
def fail {α : Type} (m : Manner) (r : Raw) : Procedure α := do
  match m with
  | .program => do
    let s ← get
    complain (s.name ++ ": " ++ r ++ ['\n'])
    throw (.fault 2)
  | .sh | .bash => refuse r

/-- The whole number that a word is. -/
def wholeOf (m : Manner) (r : Raw) : Procedure Int := do
  let isBlank (c : Char) : Bool := c == ' ' || ('\t' ≤ c && c ≤ '\x0d')
  let body := ((r.dropWhile isBlank).reverse.dropWhile isBlank).reverse
  let n : Option Int := match body with
    | '-' :: digits => (Raw.toNat? digits).map fun n => -(n : Int)
    | '+' :: digits => (Raw.toNat? digits).map fun n => (n : Int)
    | digits => (Raw.toNat? digits).map fun n => (n : Int)
  let refused : Procedure Int := fail m (match m with
    | .sh => "Illegal number: " ++ r
    | .bash => r ++ ": integer expression expected"
    | .program => "invalid integer '" ++ r ++ ['\x27'])
  match n with
  | none => refused
  | some n =>
    if m ≠ .program && (n < -9223372036854775808 || 9223372036854775807 < n) then refused
    else return n

/-- Whether what a word asks about another one holds. -/
def aboutOne (m : Manner) (letter : Char) (r : Raw) : Procedure Bool := do
  match letter with
  | 'n' => return !r.isEmpty
  | 'z' => return r.isEmpty
  | 't' =>
    if m ≠ .bash then let _ ← wholeOf m r
    return false
  | 'v' => do
    match Slot.split? r with
    | some (name, index) =>
      if index = ['@'] || index = ['*'] then
        return (← lookUp? name).any fun v => match v.value with
          | .list elements => !elements.isEmpty
          | .table elements => !elements.isEmpty
          | .text _ => true
          | .unset => false
      return (← textAt? (← slotAt name index)).isSome
    | none => return (← valueOf? r).isSome
  | 'R' => return ((← get).bindings.lookup r).any (·.isReference)
  | 'o' => do
    let s ← get
    return s.isOn (String.ofList r)
      || (r = "errexit" && s.options.contains 'e') || (r = "nounset" && s.options.contains 'u')
      || (r = "xtrace" && s.options.contains 'x')
  | c => aboutFile c r

/-- Whether what a word asks about the words at its sides holds. -/
def aboutTwo (m : Manner) (left question right : Raw) : Procedure Bool := do
  let numbers (compare : Int → Int → Bool) : Procedure Bool := do
    let a ← wholeOf m left
    let b ← wholeOf m right
    return compare a b
  let isNewer (a b : Raw) : Procedure Bool := do
    match ← timeOf? a, ← timeOf? b with
    | some t, some u => return u < t
    | some _, none => return m ≠ .sh
    | none, _ => return false
  match String.ofList question with
  | "=" | "==" => return left == right
  | "!=" => return left != right
  | "<" => return left != right && Raw.isAtMost left right
  | ">" => return left != right && Raw.isAtMost right left
  | "-eq" => numbers fun a b => a == b
  | "-ne" => numbers fun a b => a != b
  | "-lt" => numbers fun a b => a < b
  | "-le" => numbers fun a b => a ≤ b
  | "-gt" => numbers fun a b => b < a
  | "-ge" => numbers fun a b => b ≤ a
  | "-nt" => isNewer left right
  | "-ot" => isNewer right left
  | "-ef" => isSame left right
  | _ => return false

/-! ## The plain dialect -/

/-- Kinds of words in the plain dialect. -/
inductive Kind where
  /-- There is no word. -/
  | none
  /-- The word asks about the next one. -/
  | unary (letter : Char)
  /-- The word means something else. -/
  | special
  /-- The word is an operand. -/
  | operand
  deriving DecidableEq, Repr

/-- The kind of the first of some words. -/
def kindOf : List Raw → Kind
  | [] => .none
  | r :: rest =>
    match unary? .sh r with
    | some letter =>
      let isOperand := match rest with
        | [] => true
        | [_] => false
        | next :: _ => isBinary .sh next
      if isOperand then .operand else .unary letter
    | none =>
      if r = ['('] && rest.isEmpty then .operand
      else if isMeaningful r then .special
      else .operand

mutual

/-- Alternatives, in at most `n` steps. The first of the words left is the last
    one that was looked at. -/
def plainEither : (n : Nat) → Kind → Question Bool
  | 0, _ => return false
  | n + 1, kind => do
    let first ← plainBoth n kind
    match ← get with
    | _ :: ['-', 'o'] :: rest => do
      set rest
      let second ← plainEither n (kindOf rest)
      return first || second
    | _ => return first

/-- Conditions that hold together. -/
def plainBoth : (n : Nat) → Kind → Question Bool
  | 0, _ => return false
  | n + 1, kind => do
    let first ← plainNot n kind
    match ← get with
    | _ :: ['-', 'a'] :: rest => do
      set rest
      let second ← plainBoth n (kindOf rest)
      return first && second
    | _ => return first

/-- A condition or its opposite. -/
def plainNot : (n : Nat) → Kind → Question Bool
  | 0, _ => return false
  | n + 1, kind => do
    match kind, ← get with
    | .special, ['!'] :: rest => do
      if !rest.isEmpty then set rest
      return !(← plainNot n (kindOf rest))
    | kind, _ => plainOne n kind

/-- One condition. -/
def plainOne : (n : Nat) → Kind → Question Bool
  | 0, _ => return false
  | n + 1, kind => do
    match kind, ← get with
    | .none, _ | _, [] => return false
    | .special, ['('] :: rest => do
      match rest with
      | [')'] :: _ => do
        set rest
        return false
      | rest => do
        set rest
        let answer ← plainEither n (kindOf rest)
        match ← get with
        | _ :: [')'] :: after => do
          set ([')'] :: after)
          return answer
        | _ => fail .sh "closing paren expected"
    | .unary letter, question :: rest =>
      match rest with
      | [] => fail .sh (question ++ ": argument expected")
      | r :: _ => do
        set rest
        aboutOne .sh letter r
    | _, left :: question :: rest =>
      if isBinary .sh question then
        match rest with
        | [] => fail .sh (question ++ ": argument expected")
        | right :: _ => do
          set rest
          aboutTwo .sh left question right
      else return !left.isEmpty
    | _, [left] => return !left.isEmpty

end

/-- The answer to a question in the plain dialect, in at most `n` steps. -/
def plainAnswer : (n : Nat) → (isNegated : Bool) → List Raw → Procedure Bool
  | 0, _, _ => return false
  | n + 1, isNegated, words => do
    let whole (kind : Kind) (words : List Raw) : Procedure Bool := do
      let (answer, left) ← (plainEither (4 * words.length + 4) kind).run words
      match left with
      | r :: _ :: _ =>
        fail .sh (if r.isEmpty then "unexpected operator" else r ++ ": unexpected operator")
      | _ => return answer != isNegated
    let isTriple := match words with
      | [_, question, _] => isBinary .sh question
      | _ => false
    let mayGroup := !isTriple && (words.length = 3 || words.length = 4)
    if words.isEmpty then return isNegated
    else if isTriple then whole .operand words
    else if mayGroup && words.head? = some ['('] && words.getLast? = some [')'] then
      let inner := (words.drop 1).dropLast
      whole (kindOf inner) inner
    else if mayGroup && words.head? = some ['!'] then plainAnswer n true words.tail
    else whole (kindOf words) words

/-! ## The other manners -/

/-- Complains that a word is missing. -/
def failAtEnd {α : Type} (m : Manner) (words : List Raw) : Procedure α :=
  match m with
  | .program => fail m ("missing argument after '" ++ words.getLast?.getD [] ++ ['\x27'])
  | .sh | .bash => fail m "argument expected"

/-- A word as it is shown in complaints. -/
def shown (m : Manner) (r : Raw) : Raw :=
  if m = .program then ['\x27'] ++ r ++ ['\x27'] else r

/-- Complains that a word does not ask about another one. -/
def failAtUnary {α : Type} (m : Manner) (words : List Raw) : Procedure α :=
  match m, words with
  | .program, ['-', c] :: _ => fail m (shown m ['-', c] ++ ": unary operator expected")
  | .program, words => failAtEnd m words
  | _, words => fail m (words.headD [] ++ ": unary operator expected")

/-- The answer to a question of two words. -/
def ofTwo (m : Manner) (first second : Raw) : Procedure Bool :=
  if first = ['!'] then return second.isEmpty
  else
    match unary? m first with
    | some letter => aboutOne m letter second
    | none => failAtUnary m [first, second]

mutual

/-- Alternatives, in at most `n` steps. -/
def either (m : Manner) (all : List Raw) : (n : Nat) → Question Bool
  | 0 => return false
  | n + 1 => do
    let first ← both m all n
    match ← get with
    | ['-', 'o'] :: rest => do
      set rest
      let second ← either m all n
      return first || second
    | _ => return first

/-- Conditions that hold together. -/
def both (m : Manner) (all : List Raw) : (n : Nat) → Question Bool
  | 0 => return false
  | n + 1 => do
    let first ← one m all n
    match ← get with
    | ['-', 'a'] :: rest => do
      set rest
      let second ← both m all n
      return first && second
    | _ => return first

/-- One condition, or its opposite. -/
def one (m : Manner) (all : List Raw) : (n : Nat) → Question Bool
  | 0 => return false
  | n + 1 => do
    match ← get with
    | [] => failAtEnd m all
    | ['!'] :: rest => do
      set rest
      return !(← one m all n)
    | ['('] :: rest => do
      set rest
      let answer ← either m all n
      match ← get with
      | [')'] :: after => do
        set after
        return answer
      | [] =>
        if m = .program then fail m "')' expected" else fail m "\x60)' expected"
      | r :: _ =>
        if m = .program then fail m ("')' expected, found " ++ r)
        else fail m ("\x60)' expected, found " ++ r)
    | left :: question :: right :: rest =>
      if isBinary m question then
        set rest
        aboutTwo m left question right
      else simple n left (question :: right :: rest)
    | left :: rest => simple n left rest
where
  /-- A word that asks about the next one, or a text. -/
  simple (_ : Nat) (r : Raw) (rest : List Raw) : Question Bool := do
    match unary? m r, rest with
    | some letter, next :: rest => do
      set rest
      aboutOne m letter next
    | some _, [] => failAtEnd m all
    | none, rest => do
      set rest
      return !r.isEmpty

end

/-- The answer to a question of any number of words. -/
def ofMany (m : Manner) (words : List Raw) : Procedure Bool := do
  let (answer, left) ← (either m words (4 * words.length + 4)).run words
  match left with
  | [] => return answer
  | r :: _ =>
    if m = .program then fail m ("extra argument " ++ shown m r)
    else fail m "too many arguments"

/-- The answer to a question of three words. -/
def ofThree (m : Manner) (first second third : Raw) : Procedure Bool := do
  if isBinary m second then aboutTwo m first second third
  else if first = ['!'] then return !(← ofTwo m second third)
  else if first = ['('] && third = [')'] then return !second.isEmpty
  else if second = ['-', 'a'] || second = ['-', 'o'] then
    if m = .program then ofMany m [first, second, third]
    else if second = ['-', 'a'] then return !first.isEmpty && !third.isEmpty
    else return !first.isEmpty || !third.isEmpty
  else fail m (shown m second ++ ": binary operator expected")

/-- The answer to a question. -/
def answer (m : Manner) (words : List Raw) : Procedure Bool := do
  match m, words with
  | .sh, words => plainAnswer (words.length + 1) false words
  | _, [] => return false
  | _, [r] => return !r.isEmpty
  | m, [first, second] => ofTwo m first second
  | m, [first, second, third] => ofThree m first second third
  | m, [first, second, third, fourth] =>
    if first = ['!'] then return !(← ofThree m second third fourth)
    else if first = ['('] && fourth = [')'] then ofTwo m second third
    else ofMany m words
  | m, words => ofMany m words

end Question

open Procedure

/-- Answers a question by a status. -/
def testWords (m : Manner) (words : List Raw) : Procedure Nat := do
  return if ← Question.answer m words then 0 else 1

/-- Answers a question that ends with a closing bracket. -/
def testBracket (m : Manner) (words : List Raw) : Procedure Nat := do
  let isClosed := match m, words.getLast? with
    | .sh, some (']' :: _) => true
    | _, some [']'] => true
    | _, _ => false
  if isClosed then testWords m words.dropLast
  else match m with
    | .sh => refuse "missing ]"
    | .bash => refuse "missing \x60]'"
    | .program => Question.fail m "missing ']'"

end MapAudit.Script
