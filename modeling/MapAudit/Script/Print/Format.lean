import MapAudit.Script.Calendar
import MapAudit.Script.Print.Decimal
import MapAudit.Script.Print.Escape
import MapAudit.Script.Print.Quote

/-! # Formats

    A format is a text with directives. It is written with every directive
    replaced by an argument in the form that the directive asks for, and again
    from the start as long as arguments are left.

    There are three manners of formatting: those of the two dialects, and that of
    a program. They differ in the directives they know and in what they complain
    about.
-/

namespace MapAudit.Script

/-- **Manner** of printing. -/
inductive Manner where
  /-- As in the plain dialect. -/
  | sh
  /-- As in the richer dialect. -/
  | bash
  /-- As in a program. -/
  | program
  deriving DecidableEq, Repr

namespace Manner

/-- The escapes in a format. -/
def formatRule (m : Manner) : EscapeRule where
  letters := EscapeRule.commonLetters ++ match m with
    | .sh => ['e']
    | .bash => ['e', 'E', '"', '\x27', '?']
    | .program => ['e', '"']
  hasOctal := true
  hasLongOctal := false
  hasHex := m ≠ .sh
  hasUnicode := m ≠ .sh
  hasEnd := m = .program

/-- The escapes in an argument. -/
def argumentRule (m : Manner) : EscapeRule where
  letters := EscapeRule.commonLetters ++ match m with
    | .sh => ['e']
    | .bash => ['e', 'E']
    | .program => ['e', '"']
  hasOctal := true
  hasLongOctal := true
  hasHex := m ≠ .sh
  hasUnicode := m ≠ .sh
  hasEnd := true

/-- The escapes in what is echoed. -/
def echoRule (m : Manner) : EscapeRule where
  letters := EscapeRule.commonLetters ++ match m with
    | .sh => ['e']
    | .bash => ['e', 'E']
    | .program => ['e']
  hasOctal := m ≠ .bash
  hasLongOctal := true
  hasHex := m ≠ .sh
  hasUnicode := m = .bash
  hasEnd := true

/-- The precision of numbers with a fraction. -/
def precision (m : Manner) : Precision :=
  if m = .sh then .double else .extended

end Manner

/-- What comes out of printing. -/
inductive Printed where
  /-- A text is written. -/
  | text (r : Raw)
  /-- Something is complained about. -/
  | complaint (r : Raw)
  deriving DecidableEq, Repr

/-- **Printing** in a format. -/
structure Printing where
  /-- The arguments that are left. -/
  left : List Raw
  /-- What came out so far, the last first. -/
  printed : List Printed
  /-- The exit status. -/
  status : Nat
  /-- Whether a directive looked for an argument. -/
  usesArguments : Bool
  /-- When it is done. -/
  now : Moment

/-- A step of printing, which may be the last one. -/
abbrev PrintStep := ExceptT Unit (StateM Printing)

namespace PrintStep

/-- Writes a text. -/
def write (r : Raw) : PrintStep Unit :=
  if r.isEmpty then return ()
  else modify fun s => { s with printed := .text r :: s.printed }

/-- Complains, and goes on. -/
def complain (r : Raw) : PrintStep Unit :=
  modify fun s => { s with printed := .complaint r :: s.printed }

/-- Sets the exit status. -/
def setStatus (status : Nat) : PrintStep Unit :=
  modify fun s => { s with status }

/-- Complains, and writes nothing more. -/
def fail {α : Type} (status : Nat) (r : Raw) : PrintStep α := do
  complain r
  setStatus status
  throw ()

/-- The next argument. -/
def next? : PrintStep (Option Raw) := do
  let s ← get
  set { s with left := s.left.tail, usesArguments := true }
  return s.left.head?

end PrintStep

/-- How a directive fills its place. -/
structure Filling where
  /-- The marks before the width. -/
  marks : List Char
  /-- The least width. -/
  width : Nat
  /-- The number after a point. -/
  precision : Option Nat

namespace Filling

/-- Fills a text up to the width. Zeros go after the `head` of a number. -/
def fill (f : Filling) (zeros : Bool) (head r : Raw) : Raw :=
  let missing := f.width - head.length - r.length
  if f.marks.contains '-' then head ++ r ++ List.replicate missing ' '
  else if zeros && f.marks.contains '0' then head ++ List.replicate missing '0' ++ r
  else List.replicate missing ' ' ++ head ++ r

/-- Fills a text up to the width, and cuts it off at the precision. -/
def text (f : Filling) (r : Raw) : Raw :=
  f.fill false [] (match f.precision with
    | some n => r.take n
    | none => r)

/-- The sign of a number. -/
def sign (f : Filling) (isNegative : Bool) : Raw :=
  if isNegative then ['-']
  else if f.marks.contains '+' then ['+']
  else if f.marks.contains ' ' then [' ']
  else []

/-- The digits of a whole number, at least as many as the precision says. -/
def whole (f : Filling) (head digits : Raw) : Raw :=
  match f.precision with
  | none => f.fill true head digits
  | some n =>
    let digits := if n = 0 && digits = ['0'] then [] else digits
    f.fill false head (List.replicate (n - digits.length) '0' ++ digits)

end Filling

/-- The greatest whole number that is not wrapped. -/
def greatestWhole : Nat := 18446744073709551615

/-- What an argument says as a whole number: the number, and what is left of the
    argument. Nothing is read if there are no digits. -/
def readWhole? (r : Raw) : Option (Bool × Nat × Raw) :=
  let body := r.dropWhile fun c => c == ' ' || ('\t' ≤ c && c ≤ '\x0d')
  let (isNegative, body) := match body with
    | '-' :: rest => (true, rest)
    | '+' :: rest => (false, rest)
    | rest => (false, rest)
  match body with
  | '0' :: x :: d :: rest =>
    if (x = 'x' || x = 'X') && Raw.isHex d then
      let digits := (d :: rest).takeWhile Raw.isHex
      some (isNegative, Raw.hexValue digits, (d :: rest).drop digits.length)
    else octal isNegative body
  | '0' :: _ => octal isNegative body
  | body =>
    let digits := body.takeWhile Char.isDigit
    (Raw.toNat? digits).map fun n => (isNegative, n, body.drop digits.length)
where
  /-- A number in octal digits. -/
  octal (isNegative : Bool) (body : Raw) : Option (Bool × Nat × Raw) :=
    let digits := body.takeWhile Raw.isOctal
    some (isNegative, Raw.octalValue digits, body.drop digits.length)

namespace PrintStep

/-- Complains about an argument that is not the number it should be. -/
def complainOfNumber (m : Manner) (r rest : Raw) (found tooLarge : Bool) : PrintStep Unit := do
  let tooLargeText : Raw := "Numerical result out of range"
  match m with
  | .sh =>
    if !rest.isEmpty then
      complain (r ++ (if found then ": not completely converted"
        else ": expected numeric value").toList)
      setStatus 1
    else if tooLarge then
      complain (r ++ ": " ++ tooLargeText)
      setStatus 1
  | .bash =>
    if !rest.isEmpty then
      complain (r ++ ": invalid number")
      setStatus 1
    else if tooLarge then complain ("warning: " ++ r ++ ": " ++ tooLargeText)
  | .program =>
    if tooLarge then
      complain ("'" ++ r ++ "': " ++ tooLargeText)
      setStatus 1
    else if !rest.isEmpty then
      complain ("'" ++ r ++ (if found then "': value not completely converted"
        else "': expected a numeric value").toList)
      setStatus 1

/-- The number of the character after a quote, where an argument begins with
    one, and what is after that character. -/
def quotedNumber? (m : Manner) (r : Raw) : Option (Nat × Raw) :=
  match r with
  | '\x27' :: rest | '"' :: rest =>
    match m, rest with
    | .program, [] => none
    | _, [] => some (0, [])
    | .sh, c :: _ => some (c.toNat, [])
    | m, c :: after =>
      let (n, after) := match Raw.readWide? (c :: after) with
        | some (wide, after) => (wide.toNat, after)
        | none => (c.toNat, after)
      some (n, if m = .program then after else [])
  | _ => none

/-- Complains about what is after a character whose number was read. -/
def complainOfRest (rest : Raw) : PrintStep Unit := do
  if !rest.isEmpty then
    complain ("warning: ".toList ++ rest
      ++ ": character(s) following character constant have been ignored".toList)

/-- The next argument as a whole number. Where `isSigned` is off, numbers below
    zero are wrapped. -/
def nextWhole (m : Manner) (isSigned : Bool) : PrintStep Int := do
  match ← next? with
  | none => return 0
  | some r =>
    match quotedNumber? m r with
    | some (n, rest) => do
      complainOfRest rest
      return n
    | none => do
      let (isNegative, n, rest, found) := match readWhole? r with
        | some (isNegative, n, rest) => (isNegative, n, rest, true)
        | none => (false, 0, r, false)
      let half : Nat := greatestWhole / 2
      let limit := if isSigned then (if isNegative then half + 1 else half) else greatestWhole
      complainOfNumber m r rest found (limit < n)
      let n := min n limit
      if !isSigned && isNegative then
        return if n = 0 || n = limit then (n : Int) else ((greatestWhole + 1 - n : Nat) : Int)
      return if isNegative then -(n : Int) else n

/-- The next argument as a number with a fraction. -/
def nextNumeral (m : Manner) : PrintStep Numeral := do
  match ← next? with
  | none => return .finite false ⟨0, 1⟩
  | some r =>
    match quotedNumber? m r with
    | some (n, rest) => do
      complainOfRest rest
      return .finite false ⟨n, 1⟩
    | none => do
      let (n, rest, found) := match Numeral.read? r with
        | some (n, rest) => (n, rest, true)
        | none => (.finite false ⟨0, 1⟩, r, false)
      let rounded := n.rounded m.precision
      let tooLarge := match n, rounded with
        | .finite _ _, .infinite _ => true
        | _, _ => false
      complainOfNumber m r rest found tooLarge
      return rounded

/-- Reads a width or a precision, which an argument may give. -/
def readSize (m : Manner) (r : Raw) : PrintStep (Option Int × Raw) := do
  match r with
  | '*' :: rest => do
    let n ← nextWhole m true
    return (some n, rest)
  | r =>
    let digits := r.takeWhile Char.isDigit
    return ((Raw.toNat? digits).map fun n => (n : Int), r.drop digits.length)

/-- Reads how a directive fills its place. -/
def readFilling (m : Manner) (r : Raw) : PrintStep (Filling × Raw) := do
  let known : List Char := ['-', '+', ' ', '#', '0'] ++ if m = .sh then [] else ['\x27']
  let marks := r.takeWhile known.contains
  let (width, rest) ← readSize m (r.drop marks.length)
  let (precision, rest) ← match rest with
    | '.' :: rest => do
      let (n, rest) ← readSize m rest
      pure (some (n.getD 0), rest)
    | rest => pure (none, rest)
  let rest := if m = .sh then rest
    else rest.dropWhile fun c => ['h', 'l', 'L', 'j', 'z', 't'].contains c
  let width := width.getD 0
  return ({
    marks := if width < 0 then '-' :: marks else marks
    width := width.natAbs
    precision := match precision with
      | some n => if n < 0 then none else some n.toNat
      | none => none }, rest)

/-- Writes a number with a fraction. -/
def numeral (f : Filling) (letter : Char) (n : Numeral) : Raw :=
  let keeps := f.marks.contains '#'
  let capital (r : Raw) : Raw := if letter.isUpper then r.map Char.toUpper else r
  let head := f.sign n.isNegative
  match n with
  | .infinite _ => f.fill false head (capital "inf")
  | .undefined => f.fill false head (capital "nan")
  | .finite _ value =>
    let places := f.precision.getD 6
    match letter.toLower with
    | 'e' => f.fill true head (value.exponential letter places keeps)
    | 'f' => f.fill true head (value.fixed places keeps)
    | _ =>
      f.fill true head (value.general (if letter = 'G' then 'E' else 'e') places keeps)

/-- Writes what a directive with a letter asks for. The answer says whether there
    is such a directive. -/
def direct (m : Manner) (f : Filling) (letter : Char) : PrintStep Bool := do
  let isBare := f.marks.isEmpty && f.width = 0 && f.precision.isNone
  match letter with
  | 'd' | 'i' => do
    let n ← nextWhole m true
    write (f.whole (f.sign (n < 0)) (Raw.ofNat n.natAbs))
    return true
  | 'u' => do
    let n ← nextWhole m false
    write (f.whole [] (Raw.ofNat n.toNat))
    return true
  | 'o' => do
    let n ← nextWhole m false
    let digits := Nat.toDigits 8 n.toNat
    write (f.whole [] (if f.marks.contains '#' && n ≠ 0 then '0' :: digits else digits))
    return true
  | 'x' | 'X' => do
    let n ← nextWhole m false
    let digits := Nat.toDigits 16 n.toNat
    let head : Raw := if f.marks.contains '#' && n ≠ 0 then ['0', 'x'] else []
    let capital (r : Raw) : Raw := if letter = 'X' then r.map Char.toUpper else r
    write (f.whole (capital head) (capital digits))
    return true
  | 'e' | 'E' | 'f' | 'F' | 'g' | 'G' => do
    write (numeral f letter (← nextNumeral m))
    return true
  | 'c' => do
    let r ← next?
    write (f.fill false [] [(r.getD []).headD '\x00'])
    return true
  | 's' => do
    write (f.text ((← next?).getD []))
    return true
  | 'b' =>
    if m = .program && !isBare then return false
    let (r, ended) := m.argumentRule.resolve ((← next?).getD [])
    write (f.text r)
    if ended then throw ()
    return true
  | 'q' => do
    match m with
    | .sh => return false
    | .bash => do
      write (f.text (Quote.backslashed ((← next?).getD [])))
      return true
    | .program => do
      if !isBare then return false
      write (Quote.asNeeded ((← next?).getD []))
      return true
  | _ => return false

/-- The text up to the parenthesis that closes one which is read already, and what is
    left behind it. -/
def enclosed? : (depth : Nat) → Raw → Option (Raw × Raw)
  | _, [] => none
  | 0, ')' :: rest => some ([], rest)
  | depth + 1, ')' :: rest => (enclosed? depth rest).map fun (r, left) => (')' :: r, left)
  | depth, '(' :: rest => (enclosed? (depth + 1) rest).map fun (r, left) => ('(' :: r, left)
  | depth, c :: rest => (enclosed? depth rest).map fun (r, left) => (c :: r, left)

/-- Writes the moment that an argument says in seconds, in a format between parentheses,
    which follows. The answer has what is left of the format. There is none where that
    is no such directive. -/
def directTime (f : Filling) (r : Raw) : PrintStep (Option Raw) := do
  match enclosed? 0 r with
  | some (format, 'T' :: rest) => do
    let now := (← get).now
    let n ← if (← get).left.isEmpty then pure (-1) else nextWhole .bash true
    let moment := if n = -1 || n = -2 then now else { seconds := n, nanoseconds := 0 }
    write (f.text (moment.format "UTC" (if format.isEmpty then "%X".toList else format)))
    return some rest
  | found => do
    let last : Raw := match found with
      | some (_, c :: _) => [c]
      | _ => ['\x00']
    complain ("warning: \x60" ++ last ++ "': invalid time format specification")
    write "%(".toList
    return none

/-- Complains about a directive that there is not. -/
def refuseDirective {α : Type} (m : Manner) (written : Raw) : PrintStep α :=
  match m with
  | .sh => fail 2 (written ++ ": invalid directive")
  | .bash => fail 1 ("\x60" ++ (written.getLast?.toList : Raw) ++ "': invalid format character")
  | .program => fail 1 (written ++ ": invalid conversion specification")

/-- Complains about a directive that ends too early. -/
def refuseEnd {α : Type} (m : Manner) (written : Raw) : PrintStep α :=
  match m with
  | .sh => fail 2 "missing format character"
  | .bash => fail 1 ("\x60" ++ written ++ "': missing format character")
  | .program => fail 1 (written ++ ": invalid conversion specification")

/-- Writes a format once, in at most `n` steps. -/
def formatOnce (m : Manner) : (n : Nat) → Raw → PrintStep Unit
  | 0, _ => return ()
  | _ + 1, [] => return ()
  | n + 1, '%' :: '%' :: rest => do
    write ['%']
    formatOnce m n rest
  | n + 1, '%' :: rest => do
    let (f, after) ← readFilling m rest
    let between := rest.take (rest.length - after.length)
    match after with
    | [] => refuseEnd m ('%' :: between)
    | '(' :: after => do
      if m ≠ .bash then refuseDirective m ('%' :: between ++ ['('])
      formatOnce m n ((← directTime f after).getD after)
    | letter :: after => do
      if ← direct m f letter then formatOnce m n after
      else refuseDirective m ('%' :: between ++ [letter])
  | n + 1, '\\' :: rest => do
    match Escape.read? m.formatRule rest with
    | some (.ends, _) => throw ()
    | some (.text r, rest) => do
      write r
      formatOnce m n rest
    | none => do
      let isBroken := match m, rest with
        | .program, 'x' :: _ => true
        | _, _ => false
      if isBroken then fail 1 "missing hexadecimal number in escape"
      write ('\\' :: rest.take 1)
      formatOnce m n (rest.drop 1)
  | n + 1, c :: rest => do
    let run := rest.takeWhile fun d => d != '%' && d != '\\'
    write (c :: run)
    formatOnce m n (rest.drop run.length)

/-- Writes a format again and again as long as arguments are left, at most `n`
    times. -/
def formatAll (m : Manner) (format : Raw) : (n : Nat) → PrintStep Unit
  | 0 => return ()
  | n + 1 => do
    formatOnce m (format.length + 1) format
    let s ← get
    if s.left.isEmpty then return ()
    else if s.usesArguments then formatAll m format n
    else if m = .program then
      complain ("warning: ignoring excess arguments, starting with '" ++ s.left.headD [] ++ "'")

end PrintStep

/-- **Printing** of arguments in a format: what comes out, in order, and the exit
    status. -/
def formatted (m : Manner) (now : Moment) (format : Raw) (arguments : List Raw) :
    List Printed × Nat :=
  let start : Printing := {
    left := arguments, printed := [], status := 0, usesArguments := false, now }
  let (_, last) := (PrintStep.formatAll m format (arguments.length + 1)).run.run start
  (last.printed.reverse, last.status)

/-- The text of an echo, for arguments after the options. -/
def echoText (rule : Option EscapeRule) (endsLine : Bool) (arguments : List Raw) : Raw :=
  let r := [' '].intercalate arguments
  let (r, ended) := match rule with
    | some rule => rule.resolve r
    | none => (r, false)
  if endsLine && !ended then r ++ ['\n'] else r

/-- The options before what is echoed: whether the line is ended, and whether
    escapes are resolved. -/
def echoOptions (endsLine resolves : Bool) : List Raw → Bool × Bool × List Raw
  | ('-' :: c :: letters) :: rest =>
    if (c :: letters).all fun c => c = 'n' || c = 'e' || c = 'E' then
      let (endsLine, resolves) := (c :: letters).foldl (fun (endsLine, resolves) c =>
        if c = 'n' then (false, resolves) else (endsLine, c = 'e')) (endsLine, resolves)
      echoOptions endsLine resolves rest
    else (endsLine, resolves, ('-' :: c :: letters) :: rest)
  | rest => (endsLine, resolves, rest)

/-- **Echo** of arguments. -/
def echoed (m : Manner) (arguments : List Raw) : Raw :=
  match m with
  | .sh =>
    match arguments with
    | ['-', 'n'] :: rest => echoText (some m.echoRule) false rest
    | all => echoText (some m.echoRule) true all
  | .bash | .program =>
    let (endsLine, resolves, rest) := echoOptions true false arguments
    echoText (if resolves then some m.echoRule else none) endsLine rest

end MapAudit.Script
