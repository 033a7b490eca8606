import MapAudit.Script.Builtin.Conditions
import MapAudit.Script.Calendar
import MapAudit.Script.Occasion
import MapAudit.Script.Print.Format
import MapAudit.Script.Regex.Reader
import MapAudit.Script.Regex.Search
import MapAudit.Script.Utility.Input

/-! # Utilities on values

    These write texts and numbers: their arguments, in a format if one is given,
    rows of numbers, the values of expressions, and what the machine is called.
-/

namespace MapAudit.Script

namespace Utility

open Procedure

/-! ## Texts -/

/-- Writes its arguments. -/
def echo (arguments : List Raw) : Procedure Nat := do
  match arguments with
  | [r] => if ["--help", "--version"].contains (String.ofList r) then quit 0
  | _ => pure ()
  write (echoed .program arguments)
  return 0

/-- Writes its arguments in a format. -/
def printf (arguments : List Raw) : Procedure Nat := do
  let arguments ← match arguments with
    | [r] => if ["--help", "--version"].contains (String.ofList r) then quit 0 else pure arguments
    | ['-', '-'] :: rest => pure rest
    | arguments => pure arguments
  match arguments with
  | [] => refuseUse 1 "missing operand"
  | format :: rest => do
    let (printed, status) := formatted .program (.ofNanoseconds 0) format rest
    printed.forM fun p => match p with
      | .text r => write r
      | .complaint r => tell r
    return status

/-- Writes a line again and again, as long as it can be written. -/
def yes (arguments : List Raw) : Procedure Nat := do
  let a ← readArguments { letters := "", names := [], endsEarly := true } arguments
  let line := (if a.operands.isEmpty then ['y'] else [' '].intercalate a.operands) ++ ['\n']
  let lines := (List.replicate (8192 / line.length + 1) line).flatten
  stepwise () fun _ => do
    match ← writeTo 1 lines with
    | none => return .more ()
    | some fault => do
      tell ("standard output: " ++ fault.text)
      return .done 1

/-- Writes the working directory. -/
def pwd (arguments : List Raw) : Procedure Nat := do
  let a ← readArguments { letters := "LP", names := [("logical", 'L'), ("physical", 'P')] } arguments
  let s ← get
  let shown : Raw := match (s.bindings.lookup "PWD".toList).bind (·.text?) with
    | some r =>
      let isRight := match s.machine.tree.locate [] (pathOf r) with
        | .ok location => r.head? = some '/' && location == s.directory
        | .error _ => false
      if a.lastOf? "LP" = some 'L' && isRight then r else locationText s.directory
    | none => locationText s.directory
  write (shown ++ ['\n'])
  return 0

/-! ## Rows of numbers -/

/-- **Step number**: a decimal number as a whole number and how many of its digits
    stand after the point. -/
structure StepNumber where
  /-- The digits as a whole number. -/
  digits : Int
  /-- The number of digits after the point. -/
  places : Nat
  /-- How wide the number is written. -/
  width : Nat

/-- Ten to the power of a number. -/
def powerOfTen (n : Nat) : Nat :=
  (List.replicate n 10).foldl (· * ·) 1

/-- The number that a text says. -/
def stepNumber? (r : Raw) : Option StepNumber := do
  let (isNegative, body) := match r with
    | '-' :: rest => (true, rest)
    | '+' :: rest => (false, rest)
    | rest => (false, rest)
  let whole := body.takeWhile Char.isDigit
  let rest := body.drop whole.length
  let (part, rest) := match rest with
    | '.' :: rest =>
      let part := rest.takeWhile Char.isDigit
      (part, rest.drop part.length)
    | rest => ([], rest)
  if whole.isEmpty && part.isEmpty then failure
  let n := (Raw.toNat? (whole ++ part)).getD 0
  let (n, places) ← match rest with
    | [] => some (n, part.length)
    | e :: power =>
      if e ≠ 'e' && e ≠ 'E' then none
      else
        let (isDown, digits) := match power with
          | '-' :: digits => (true, digits)
          | '+' :: digits => (false, digits)
          | digits => (false, digits)
        let k ← Raw.toNat? digits
        if 400 < k then none
        else if isDown then some (n, part.length + k)
        else if part.length ≤ k then some (n * powerOfTen (k - part.length), 0)
        else some (n, part.length - k)
  let width := (if isNegative then 1 else 0) + (Raw.ofNat (n / powerOfTen places)).length
  return { digits := if isNegative then -(n : Int) else n, places, width }

/-- A number of so many hundredths and the like, with its point. -/
def decimalText (places : Nat) (n : Int) : Raw :=
  let power := powerOfTen places
  let whole := Raw.ofNat (n.natAbs / power)
  let sign : Raw := if n < 0 then ['-'] else []
  if places = 0 then sign ++ whole
  else
    let part := Raw.ofNat (n.natAbs % power)
    sign ++ whole ++ '.' :: List.replicate (places - part.length) '0' ++ part

/-- The options of `seq`. -/
def seqOptions : OptionTable where
  letters := "f:s:w"
  names := [("equal-width", 'w'), ("format=", 'f'), ("separator=", 's')]
  endsEarly := true

/-- The arguments of `seq`, in which negative numbers are no options. -/
def seqArguments : List Raw → List Raw
  | [] => []
  | ['-', 'f'] :: r :: rest => ['-', 'f'] :: r :: seqArguments rest
  | ['-', 's'] :: r :: rest => ['-', 's'] :: r :: seqArguments rest
  | ('-' :: c :: more) :: rest =>
    if c.isDigit || c = '.' then ['-', '-'] :: ('-' :: c :: more) :: rest
    else ('-' :: c :: more) :: seqArguments rest
  | r :: rest => r :: rest

/-- What is wrong with a format for numbers. It has to have one directive. -/
def seqFormatFault? (r : Raw) : Option Raw :=
  let rec directives : Raw → List Raw
    | '%' :: '%' :: rest => directives rest
    | '%' :: rest => rest :: directives rest
    | _ :: rest => directives rest
    | [] => []
  let isFlag (c : Char) : Bool := "-+#0 '".toList.contains c || c.isDigit || c = '.'
  match directives r with
  | [] => some " has no % directive"
  | directive :: others =>
    match (directive.dropWhile isFlag).dropWhile (· = 'L') with
    | [] => some " ends in %"
    | c :: _ =>
      if !"efgaEFGA".toList.contains c then some (" has unknown %".toList ++ c :: " directive".toList)
      else if others.isEmpty then none
      else some " has too many % directives"

/-- How many numbers are made at a time. -/
def seqPortion : Nat := 256

/-- Whether a text is the name of a number without end. -/
def isInfinity (r : Raw) : Bool :=
  r = "inf".toList || r = "infinity".toList

/-- Writes numbers from one to another. -/
def seq (arguments : List Raw) : Procedure Nat := do
  let a ← readArguments seqOptions (seqArguments arguments)
  let number (r : Raw) : Procedure StepNumber := do
    match stepNumber? r with
    | some n => return n
    | none => refuseUse 1 ("invalid floating point argument: " ++ Quote.curly r)
  if a.operands.isEmpty then refuseUse 1 "missing operand"
  refuseExtra 1 3 a
  let one : StepNumber := { digits := 1, places := 0, width := 1 }
  let limit (r : Raw) : Procedure (Option StepNumber) := do
    if isInfinity r then return none
    return some (← number r)
  let (first, step, last) ← match a.operands with
    | [last] => do pure (one, one, ← limit last)
    | [first, last] => do
      let first ← number first
      pure (first, one, ← limit last)
    | first :: step :: last :: _ => do
      let first ← number first
      let increment ← number step
      if increment.digits = 0 then
        refuseUse 1 ("invalid Zero increment value: " ++ Quote.curly step)
      pure (first, increment, ← limit last)
    | [] => pure (one, one, some one)
  match a.value? 'f' with
  | some r =>
    match seqFormatFault? r with
    | some why => refuse 1 ("format " ++ Quote.curly r ++ why)
    | none => pure ()
  | none => pure ()
  let places := max first.places step.places
  let scale := max places ((last.map (·.places)).getD 0)
  let scaled (n : StepNumber) : Int := n.digits * powerOfTen (scale - n.places)
  let low := scaled first
  let by' := scaled step
  let count : Option Nat := last.map fun last =>
    let high := scaled last
    if 0 < by' then (if high < low then 0 else ((high - low) / by').toNat + 1)
    else (if low < high then 0 else ((low - high) / -by').toNat + 1)
  let down := powerOfTen (scale - places)
  let text (i : Nat) : Raw := decimalText places ((low + by' * Int.ofNat i).tdiv down)
  let wholeWidth (i : Nat) : Nat := ((text i).takeWhile (· ≠ '.')).length
  let width := match last, count with
    | some last, some count => max first.width (max last.width (wholeWidth (count - 1)))
    | _, _ => first.width
  let shown (i : Nat) : Raw :=
    match a.value? 'f' with
    | some r => (formatted .program (.ofNanoseconds 0) r [text i]).1.flatMap fun p => match p with
      | .text r => r
      | .complaint _ => []
    | none =>
      if a.has 'w' then
        let (sign, body) := match text i with
          | '-' :: rest => (['-'], rest)
          | rest => ([], rest)
        let total := width + (if places = 0 then 0 else places + 1)
        sign ++ List.replicate (total - sign.length - body.length) '0' ++ body
      else text i
  let separator := (a.value? 's').getD ['\n']
  stepwise 0 fun i => do
    let left := match count with
      | some count => count - i
      | none => seqPortion
    let here := (List.range (min left seqPortion)).map fun k => shown (i + k)
    if here.isEmpty then return .done ()
    write ((if i = 0 then [] else separator) ++ separator.intercalate here)
    if (← get).outputFault.isSome then return .done ()
    return .more (i + here.length)
  if count ≠ some 0 then write ['\n']
  return 0

/-! ## Expressions -/

/-- An expression that is being read: the arguments that are left, and the last one
    that was read. -/
structure Terms where
  /-- The arguments that are left. -/
  rest : List Raw
  /-- The last one that was read. -/
  last : Raw

/-- Reader of expressions. Where it `runs` is false, nothing is computed. -/
abbrev TermReader := StateT Terms (Except Raw)

namespace TermReader

/-- Whether a text is a whole number. -/
def whole? (r : Raw) : Option Int :=
  match r with
  | '-' :: digits => (Raw.toNat? digits).map fun n => -(n : Int)
  | digits => (Raw.toNat? digits).map fun n => (n : Int)

/-- Whether a text counts as nothing. -/
def isNull (r : Raw) : Bool :=
  r.isEmpty || whole? r = some 0

/-- The next argument. -/
def next : TermReader Raw := do
  let s ← get
  match s.rest with
  | [] => throw ("syntax error: missing argument after ".toList ++ Quote.curly (Raw.narrow s.last))
  | r :: rest => do
    set { rest, last := r : Terms }
    return r

/-- Goes over the next argument if it is one of some. -/
def nextOf? (names : List String) : TermReader (Option String) := do
  let s ← get
  match s.rest with
  | r :: rest =>
    if names.contains (String.ofList r) then
      set { rest, last := r : Terms }
      return some (String.ofList r)
    return none
  | [] => return none

/-- The whole number that a text has to be. -/
def demand (runs : Bool) (r : Raw) : TermReader Int := do
  match whole? r with
  | some n => return n
  | none => if runs then throw "non-integer argument".toList else return 0

/-- What a text has that matches an expression at its start. -/
def matched (r pattern : Raw) : TermReader Raw := do
  match Regex.read
      { isExtended := false, isLenient := true, refusesDoubled := true } pattern with
  | .error fault => throw fault.message.toList
  | .ok regex =>
    let found := (Regex.both (.at .start) regex).search? false r
    if regex.groups = 0 then
      return match found with
        | some f => Raw.ofNat f.text.length
        | none => ['0']
    else return (found.bind fun f => f.groups.lookup 1).getD []

/-- The value of a chain of operators of one rank. -/
def chain (operators : List String) (operand : TermReader Raw)
    (apply : String → Raw → Raw → TermReader Raw) : (n : Nat) → Raw → TermReader Raw
  | 0, r => return r
  | n + 1, r => do
    match ← nextOf? operators with
    | none => return r
    | some op => do
      let right ← operand
      chain operators operand apply n (← apply op r right)

/-- The result of a comparison. -/
def comparison (op : String) (a b : Raw) : Raw :=
  let order : Ordering := match whole? a, whole? b with
    | some m, some n => compare m n
    | _, _ => if a = b then .eq else if Raw.isAtMost a b then .lt else .gt
  let holds : Bool := match op with
    | "<" => order == .lt
    | "<=" => order != .gt
    | "=" | "==" => order == .eq
    | "!=" => order != .eq
    | ">=" => order != .lt
    | _ => order == .gt
  if holds then ['1'] else ['0']

mutual

/-- A single value, at most `n` levels deep. -/
def single (runs : Bool) : (n : Nat) → TermReader Raw
  | 0 => throw "syntax error".toList
  | n + 1 => do
    let r ← next
    match String.ofList r with
    | "(" => do
      let value ← either runs n
      match ← nextOf? [")"] with
      | some _ => return value
      | none =>
        let s ← get
        match s.rest with
        | [] => throw ("syntax error: expecting ')' after ".toList ++ Quote.curly (Raw.narrow s.last))
        | r :: _ => throw ("syntax error: expecting ')' instead of ".toList ++ Quote.curly (Raw.narrow r))
    | ")" => throw "syntax error: unexpected ')'".toList
    | "+" => next
    | "length" => do return Raw.ofNat (← single runs n).length
    | "match" => do
      let r ← single runs n
      matched r (← single runs n)
    | "index" => do
      let r ← single runs n
      let set ← single runs n
      let before := (r.takeWhile (!set.contains ·)).length
      return Raw.ofNat (if before < r.length then before + 1 else 0)
    | "substr" => do
      let r ← single runs n
      let start := whole? (← single runs n)
      let size := whole? (← single runs n)
      match start, size with
      | some i, some k => return if i < 1 then [] else (r.drop (i.toNat - 1)).take k.toNat
      | _, _ => return []
    | _ => return r

/-- A value with matches, at most `n` levels deep. -/
def matching (runs : Bool) : (n : Nat) → TermReader Raw
  | 0 => throw "syntax error".toList
  | n + 1 => do
    chain [":"] (single runs n) (fun _ a b => matched a b) (← get).rest.length (← single runs n)

/-- A product, at most `n` levels deep. -/
def product (runs : Bool) : (n : Nat) → TermReader Raw
  | 0 => throw "syntax error".toList
  | n + 1 => do
    let apply (op : String) (a b : Raw) : TermReader Raw := do
      let x ← demand runs a
      let y ← demand runs b
      if op ≠ "*" && y = 0 then
        if runs then throw "division by zero".toList else return ['0']
      return Raw.ofInt (match op with
        | "*" => x * y
        | "/" => x.tdiv y
        | _ => x.tmod y)
    chain ["*", "/", "%"] (matching runs n) apply (← get).rest.length (← matching runs n)

/-- A sum, at most `n` levels deep. -/
def sum (runs : Bool) : (n : Nat) → TermReader Raw
  | 0 => throw "syntax error".toList
  | n + 1 => do
    let apply (op : String) (a b : Raw) : TermReader Raw := do
      let x ← demand runs a
      let y ← demand runs b
      return Raw.ofInt (if op = "+" then x + y else x - y)
    chain ["+", "-"] (product runs n) apply (← get).rest.length (← product runs n)

/-- A comparison, at most `n` levels deep. -/
def compared (runs : Bool) : (n : Nat) → TermReader Raw
  | 0 => throw "syntax error".toList
  | n + 1 => do
    chain ["<", "<=", "=", "==", "!=", ">=", ">"] (sum runs n)
      (fun op a b => return comparison op a b) (← get).rest.length (← sum runs n)

/-- The first value if both count as something, at most `n` levels deep. -/
def both (runs : Bool) : (n : Nat) → TermReader Raw
  | 0 => throw "syntax error".toList
  | n + 1 => do
    let first ← compared runs n
    chain ["&"] (compared (runs && !isNull first) n)
      (fun _ a b => return if isNull a || isNull b then ['0'] else a) (← get).rest.length first

/-- The first value that counts as something, at most `n` levels deep. -/
def either (runs : Bool) : (n : Nat) → TermReader Raw
  | 0 => throw "syntax error".toList
  | n + 1 => do
    let first ← both runs n
    chain ["|"] (both (runs && isNull first) n)
      (fun _ a b => return if !isNull a then a else if !isNull b then b else ['0'])
      (← get).rest.length first

end

end TermReader

/-- Writes the value of an expression. -/
def expr (arguments : List Raw) : Procedure Nat := do
  let arguments ← match arguments with
    | [r] => if ["--help", "--version"].contains (String.ofList r) then quit 0 else pure arguments
    | ['-', '-'] :: rest => pure rest
    | arguments => pure arguments
  if arguments.isEmpty then refuseUse 2 "missing operand"
  let depth := 8 * arguments.length + 8
  match (TermReader.either true depth).run { rest := arguments.map Raw.widen, last := [] } with
  | .error why => refuse 2 why
  | .ok (_, { rest := r :: _, .. }) =>
    refuse 2 ("syntax error: unexpected argument " ++ Quote.curly (Raw.narrow r))
  | .ok (r, _) => do
    write (Raw.narrow r ++ ['\n'])
    return if TermReader.isNull r then 1 else 0

/-! ## The machine -/

/-- The options of `uname`. -/
def unameOptions : OptionTable where
  letters := "asnrvmpio"
  names := [("all", 'a'), ("kernel-name", 's'), ("nodename", 'n'), ("kernel-release", 'r'),
    ("kernel-version", 'v'), ("machine", 'm'), ("processor", 'p'), ("hardware-platform", 'i'),
    ("operating-system", 'o')]

/-- Writes what the machine is called. -/
def uname (arguments : List Raw) : Procedure Nat := do
  let a ← readArguments unameOptions arguments
  refuseExtra 1 0 a
  let parts := [('s', "Linux"), ('n', "localhost"), ('r', "6.0.0"), ('v', "#1"), ('m', "x86_64"),
    ('p', "unknown"), ('i', "unknown"), ('o', "GNU/Linux")]
  let isAsked (c : Char) : Bool := a.has c || (a.has 'a' && c ≠ 'p' && c ≠ 'i')
  let chosen := (parts.filter fun (c, _) => isAsked c).map fun (_, r) => r.toList
  write ([' '].intercalate (if chosen.isEmpty then ["Linux".toList] else chosen) ++ ['\n'])
  return 0

/-- Writes who the user is. -/
def id (arguments : List Raw) : Procedure Nat := do
  let a ← readArguments {
    letters := "agGnruzZ"
    names := [("context", 'Z'), ("group", 'g'), ("groups", 'G'), ("name", 'n'), ("real", 'r'),
      ("user", 'u'), ("zero", 'z')] } arguments
  if a.has 'n' && !(a.has 'u' || a.has 'g' || a.has 'G') then
    refuse 1 "printing only names or real IDs requires -u, -g, or -G"
  write (if a.has 'u' || a.has 'g' || a.has 'G' then (if a.has 'n' then "root\n" else "0\n").toList
    else "uid=0(root) gid=0(root) groups=0(root)\n".toList)
  return 0

/-- A utility without options that writes a line. -/
def constant (r : String) (arguments : List Raw) : Procedure Nat := do
  let a ← readArguments { letters := "", names := [("all", 'a'), ("ignore=", 'i')] } arguments
  refuseExtra 1 0 a
  write (r.toList ++ ['\n'])
  return 0

/-- The duration that a text says, or none if it has no end. There is no answer where
    it says none. -/
def interval? (r : Raw) : Option (Option Duration) := do
  let (body, unit) := match r.getLast? with
    | some c =>
      match Duration.unit? [c] with
      | some unit => (r.dropLast, unit)
      | none => (r, 1)
    | none => (r, 1)
  if isInfinity body then return none
  let n ← stepNumber? body
  if body.head? = some '-' then failure
  return some (n.digits.toNat * Duration.second * unit / powerOfTen n.places)

/-- Waits. -/
def sleep (arguments : List Raw) : Procedure Nat := do
  let a ← readArguments { letters := "", names := [] } arguments
  if a.operands.isEmpty then refuseUse 1 "missing operand"
  let bad := a.operands.filter fun r => (interval? r).isNone
  bad.forM fun r => tell ("invalid time interval " ++ Quote.curly r)
  if !bad.isEmpty then
    complain (helpHint (← get).name)
    return 1
  let durations := a.operands.filterMap interval?
  let total : Option Duration := durations.foldl (fun total d => do return (← total) + (← d)) (some 0)
  match total with
  | some total => do
    let now := (← get).machine.now
    rest 0 (.time (now + total))
    return 0
  | none => do
    rest 0 (.child [] none false)
    return 0

/-! ## Dates -/

/-- The options of `date`. -/
def dateOptions : OptionTable where
  letters := "d:f:I::r:Rs:u"
  names := [("date=", 'd'), ("debug", 'D'), ("file=", 'f'), ("iso-8601?", 'I'), ("reference=", 'r'),
    ("resolution", 'e'), ("rfc-email", 'R'), ("rfc-822", 'R'), ("rfc-2822", 'R'), ("rfc-3339=", '3'),
    ("set=", 's'), ("uct", 'u'), ("utc", 'u'), ("universal", 'u')]

/-- The format that options of `date` ask for, if they do. -/
def dateFormat? (a : Arguments) : Procedure (Option Raw) := do
  match a.lastOf? "IR3" with
  | some 'R' => return some "%a, %d %b %Y %H:%M:%S %z"
  | some 'I' =>
    let r := (a.value? 'I').getD []
    let named (name : String) : Bool := r.isPrefixOf name.toList
    if r.isEmpty || named "date" then return some "%Y-%m-%d"
    else if named "hours" then return some "%Y-%m-%dT%H%:z"
    else if named "minutes" then return some "%Y-%m-%dT%H:%M%:z"
    else if named "seconds" then return some "%Y-%m-%dT%H:%M:%S%:z"
    else if named "ns" then return some "%Y-%m-%dT%H:%M:%S,%N%:z"
    else refuseDateForm r "--iso-8601" ["hours", "minutes", "date", "seconds", "ns"]
  | some _ =>
    let r := (a.value? '3').getD []
    let named (name : String) : Bool := r.isPrefixOf name.toList
    if r.isEmpty then refuseDateForm r "--rfc-3339" ["date", "seconds", "ns"]
    else if named "date" then return some "%Y-%m-%d"
    else if named "seconds" then return some "%Y-%m-%d %H:%M:%S%:z"
    else if named "ns" then return some "%Y-%m-%d %H:%M:%S.%N%:z"
    else refuseDateForm r "--rfc-3339" ["date", "seconds", "ns"]
  | none => return none
where
  /-- Refuses a word for a form. -/
  refuseDateForm (r : Raw) (option : String) (words : List String) : Procedure (Option Raw) := do
    tell ("invalid argument " ++ Quote.curly r ++ " for " ++ Quote.curly option)
    complain ("Valid arguments are:\n".toList ++ words.flatMap fun word =>
      "  - ".toList ++ Quote.curly word.toList ++ ['\n'])
    complain (helpHint (← get).name)
    quit 1

/-- Writes a moment: the present one, or one that is said. -/
def date (arguments : List Raw) : Procedure Nat := do
  let a ← readArguments dateOptions arguments
  let asked ← dateFormat? a
  refuseExtra 1 1 a
  let now := Moment.ofNanoseconds (← get).machine.time
  let format ← match a.operands with
    | ('+' :: format) :: _ => do
      if asked.isSome then refuse 1 "multiple output formats specified"
      pure format
    | r :: _ => do
      if a.has 'd' || a.has 'r' || a.has 'f' || a.has 's' then
        refuseUse 1 ("the argument " ++ Quote.curly r
          ++ (" lacks a leading '+';\nwhen using an option to specify date(s), any non-option\n"
            ++ "argument must be a format string beginning with '+'").toList)
      match Moment.ofStamp? now r with
      | some _ => do
        tell "cannot set date: Operation not permitted"
        pure "%a %b %e %H:%M:%S %Z %Y".toList
      | none => refuse 1 ("invalid date " ++ Quote.curly r)
    | [] => pure (asked.getD "%a %b %e %H:%M:%S %Z %Y")
  let put (m : Moment) : Procedure Unit := write (m.format "UTC" format ++ ['\n'])
  let said (r : Raw) : Procedure Nat := do
    match Moment.ofRaw? now r with
    | some m => do
      put m
      return 0
    | none => do
      tell ("invalid date " ++ Quote.curly r)
      return 1
  match a.value? 'd', a.value? 'r', a.value? 'f' with
  | some r, none, none => said r
  | none, some r, none => do
    match ← find r with
    | .ok node => do
      put (.ofNanoseconds (((node.attributes?).map (·.time)).getD now.total))
      return 0
    | .error fault => do
      tellFile r fault
      return 1
  | none, none, some r => do
    match ← readOperand r with
    | .ok content => forEach ((linesWithEnds content).map fun l => (withoutEnd '\n' l).1) said
    | .error fault => do
      tellFile r fault
      return 1
  | none, none, none => do
    put now
    return 0
  | _, _, _ => refuseUse 1 "the options to specify dates for printing are mutually exclusive"

end Utility

end MapAudit.Script
