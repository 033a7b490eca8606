import MapAudit.Script.Print.Decimal
import MapAudit.Script.Utility.Lines
import MapAudit.Script.Version

/-! # Sorting lines

    `sort` puts lines in order, by the whole lines or by keys in them, and `uniq`
    drops lines that repeat the one before.
-/

namespace MapAudit.Script

namespace Utility

open Procedure

/-! ## Comparing texts -/

/-- The order of two raw texts by their bytes. -/
def compareBytes : Raw → Raw → Ordering
  | [], [] => .eq
  | [], _ :: _ => .lt
  | _ :: _, [] => .gt
  | a :: as, b :: bs => (compare a.toNat b.toNat).then (compareBytes as bs)

/-- Whether a character is a blank. -/
def isBlank (c : Char) : Bool :=
  c = ' ' || c = '\t' || c = '\n'

/-- **Magnitude**: a decimal number, as its sign, its digits before the point and
    those after it. -/
structure Magnitude where
  /-- Whether the number is below zero. -/
  isNegative : Bool
  /-- The digits before the point, without zeros at the start. -/
  whole : Raw
  /-- The digits after the point, without zeros at the end. -/
  part : Raw

namespace Magnitude

/-- The number that a text begins with, and what is after it. -/
def read (r : Raw) : Magnitude × Raw :=
  let r := r.dropWhile isBlank
  let (isNegative, r) := match r with
    | '-' :: rest => (true, rest)
    | r => (false, r)
  let digits := r.takeWhile Char.isDigit
  let r := r.drop digits.length
  let (part, r) := match r with
    | '.' :: rest =>
      let part := rest.takeWhile Char.isDigit
      (part, rest.drop part.length)
    | r => ([], r)
  ({ isNegative, whole := digits.dropWhile (· = '0'),
     part := (part.reverse.dropWhile (· = '0')).reverse }, r)

/-- Whether a number is zero. -/
def isZero (m : Magnitude) : Bool :=
  m.whole.isEmpty && m.part.isEmpty

/-- The order of two numbers without their signs. -/
def compareSizes (a b : Magnitude) : Ordering :=
  ((compare a.whole.length b.whole.length).then (compareBytes a.whole b.whole)).then
    (compareBytes a.part b.part)

/-- The order of two numbers. -/
def compareTo (a b : Magnitude) : Ordering :=
  match a.isNegative && !a.isZero, b.isNegative && !b.isZero with
  | true, true => compareSizes b a
  | true, false => .lt
  | false, true => .gt
  | false, false => compareSizes a b

end Magnitude

/-- The order of two texts as numbers with suffixes. -/
def compareHuman (a b : Raw) : Ordering :=
  let order (r : Raw) : Int × Magnitude :=
    let (m, rest) := Magnitude.read r
    let size : Int := match rest with
      | c :: _ =>
        let c := if c = 'k' then 'K' else c
        if "KMGTPEZY".toList.contains c then ("KMGTPEZY".toList.idxOf c : Int) + 1 else 0
      | [] => 0
    (if m.isZero then 0 else if m.isNegative then -size else size, m)
  let (i, m) := order a
  let (j, n) := order b
  let sign (m : Magnitude) : Int := if m.isZero then 0 else if m.isNegative then -1 else 1
  ((compare (sign m) (sign n)).then (compare i j)).then (m.compareTo n)

/-- The place of a numeral of any form among all numerals: what is no numeral comes
    first, then what says that it is no number, then numbers by their sizes. -/
def numeralClass : Option Numeral → Nat
  | none => 0
  | some .undefined => 1
  | some (.infinite true) => 2
  | some (.finite _ _) => 3
  | some (.infinite false) => 4

/-- The order of two texts as numerals of any form. -/
def compareNumerals (a b : Raw) : Ordering :=
  let value (r : Raw) : Option Numeral := (Numeral.read? r).map fun n => n.1.rounded .extended
  match value a, value b with
  | some (.finite s f), some (.finite t g) =>
    let signed (isNegative : Bool) (n : Nat) : Int := if isNegative then -n else n
    compare (signed s (f.top * g.bottom)) (signed t (g.top * f.bottom))
  | a, b => compare (numeralClass a) (numeralClass b)

/-! ## Keys -/

/-- A place in a line: a field, a character of it, and whether blanks before the
    field are left out. -/
structure KeyPlace where
  /-- The number of the field. -/
  field : Nat
  /-- The number of the character. -/
  character : Nat
  /-- Whether blanks at the start of the field are left out. -/
  skipsBlanks : Bool

/-- **Key** that lines are sorted by. -/
structure SortKey where
  /-- Where it begins. -/
  start : KeyPlace
  /-- Where it ends; there is none at the end of the line. -/
  finish : Option KeyPlace
  /-- The letters that say how keys are compared. -/
  manner : List Char

/-- The text from a field on, where `separator` separates fields, or else blanks
    before them. -/
def fromField (separator : Option Char) : (n : Nat) → Raw → Raw
  | 0, l => l
  | n + 1, l =>
    match separator with
    | some c => fromField separator n ((l.dropWhile (· ≠ c)).drop 1)
    | none => fromField separator n ((l.dropWhile isBlank).dropWhile (!isBlank ·))

/-- The text up to the end of a field. -/
def throughField (separator : Option Char) (n : Nat) (l : Raw) : Raw :=
  let rest := fromField separator n l
  match separator with
  | some c =>
    let all := rest.length
    let taken := l.take (l.length - all)
    if rest.isEmpty && taken.getLast? ≠ some c then l
    else if taken.getLast? = some c then taken.dropLast else taken
  | none => l.take (l.length - rest.length)

namespace SortKey

/-- The part of a line that a key says. -/
def textOf (separator : Option Char) (key : SortKey) (l : Raw) : Raw :=
  let start := fromField separator (key.start.field - 1) l
  let start := if key.start.skipsBlanks then start.dropWhile isBlank else start
  let start := start.drop (key.start.character - 1)
  let offset := l.length - start.length
  match key.finish with
  | none => start
  | some place =>
    let finish :=
      if place.character = 0 then (throughField separator place.field l).length
      else
        let field := fromField separator (place.field - 1) l
        let field := if place.skipsBlanks then field.dropWhile isBlank else field
        l.length - (field.drop place.character).length
    l.take finish |>.drop offset

/-- The order of two lines by a key. -/
def compareLines (separator : Option Char) (key : SortKey) (a b : Raw) : Ordering :=
  let has (c : Char) : Bool := key.manner.contains c
  let prepare (l : Raw) : Raw :=
    let r := key.textOf separator l
    let r := if has 'b' then r.dropWhile isBlank else r
    let r := if has 'd' then r.filter fun c => c.isAlphanum || c = ' ' || c = '\t' else r
    let r := if has 'i' then r.filter fun c => ' ' ≤ c && c ≤ '~' else r
    if has 'f' then r.map Char.toUpper else r
  let a := prepare a
  let b := prepare b
  let order :=
    if has 'n' then (Magnitude.read a).1.compareTo (Magnitude.read b).1
    else if has 'g' then compareNumerals a b
    else if has 'h' then compareHuman a b
    else if has 'M' then compare (monthOf a) (monthOf b)
    else if has 'V' then Version.order a b
    else compareBytes a b
  if has 'r' then order.swap else order
where
  /-- The number of the month that a text begins with. -/
  monthOf (r : Raw) : Nat :=
    let names := ["JAN", "FEB", "MAR", "APR", "MAY", "JUN", "JUL", "AUG", "SEP", "OCT", "NOV", "DEC"]
    let name := String.ofList (((r.dropWhile isBlank).take 3).map Char.toUpper)
    if names.contains name then names.idxOf name + 1 else 0

end SortKey

/-! ## Sorting -/

/-- The options of `sort`. -/
def sortOptions : OptionTable where
  letters := "bcCdfghik:mMno:rRsS:t:T:uVy::z"
  names := [("ignore-leading-blanks", 'b'), ("check?", 'c'), ("compress-program=", '1'),
    ("debug", '2'), ("dictionary-order", 'd'), ("ignore-case", 'f'), ("files0-from=", '3'),
    ("general-numeric-sort", 'g'), ("ignore-nonprinting", 'i'), ("key=", 'k'), ("merge", 'm'),
    ("month-sort", 'M'), ("numeric-sort", 'n'), ("human-numeric-sort", 'h'), ("version-sort", 'V'),
    ("random-sort", 'R'), ("random-source=", '4'), ("sort=", '5'), ("output=", 'o'), ("reverse", 'r'),
    ("stable", 's'), ("batch-size=", '6'), ("buffer-size=", 'S'), ("field-separator=", 't'),
    ("temporary-directory=", 'T'), ("unique", 'u'), ("zero-terminated", 'z'), ("parallel=", '7')]
  failure := 2

/-- Letters that say how keys are compared. -/
def mannerLetters : List Char :=
  "bdfgiMhnrRV".toList

/-- Reads a place of a key. The answer has the letters and the text after it. -/
def readKeyPlace (r : Raw) : Option (Nat × Nat × List Char × Raw) := do
  let digits := r.takeWhile Char.isDigit
  let field ← Raw.toNat? digits
  let r := r.drop digits.length
  let (character, r) ← match r with
    | '.' :: rest =>
      let digits := rest.takeWhile Char.isDigit
      (Raw.toNat? digits).map fun n => (n, rest.drop digits.length)
    | r => some (0, r)
  let letters := r.takeWhile mannerLetters.contains
  return (field, character, letters, r.drop letters.length)

/-- Reads a key. -/
def readKey (r : Raw) : Procedure SortKey := do
  let bad {α : Type} (why r : Raw) : Procedure α :=
    refuse 2 (why ++ ": invalid field specification " ++ Quote.curly r)
  match readKeyPlace r with
  | none =>
    refuse 2 ("invalid number at field start: invalid count at start of " ++ Quote.curly r)
  | some (0, _, _, _) => bad "field number is zero" r
  | some (field, character, letters, rest) => do
    if (r.dropWhile Char.isDigit).take 2 = ['.', '0'] && character = 0 then
      bad "character offset is zero" r
    let start : KeyPlace := {
      field, character := max character 1, skipsBlanks := letters.contains 'b' }
    match rest with
    | [] => return { start, finish := none, manner := letters.filter (· ≠ 'b') }
    | ',' :: rest =>
      match readKeyPlace rest with
      | none =>
        refuse 2 ("invalid number after ',': invalid count at start of " ++ Quote.curly rest)
      | some (0, _, _, _) => bad "field number is zero" r
      | some (field, character, more, []) =>
        return {
          start
          finish := some { field, character, skipsBlanks := more.contains 'b' }
          manner := (letters ++ more).filter (· ≠ 'b') }
      | some _ => bad "stray character in field spec" r
    | _ => bad "stray character in field spec" r

/-- The order of two lines by keys. -/
def compareByKeys (separator : Option Char) (a b : Raw) : List SortKey → Ordering
  | [] => .eq
  | key :: rest => (key.compareLines separator a b).then (compareByKeys separator a b rest)

/-- The letters that the name of an order stands for. -/
def orderNamed (r : Raw) : List Char :=
  match String.ofList r with
  | "general-numeric" => ['g']
  | "human-numeric" => ['h']
  | "month" => ['M']
  | "numeric" => ['n']
  | "version" => ['V']
  | _ => []

/-- Writes the lines of files in order. -/
def sort (arguments : List Raw) : Procedure Nat := do
  let a ← readArguments sortOptions arguments
  let separator ← match a.value? 't' with
    | none => pure none
    | some [c] => pure (some c)
    | some "\\0" => pure (some '\x00')
    | some [] => refuse 2 "empty tab"
    | some r => refuse 2 ("multi-character tab " ++ Quote.curly r)
  let general := (a.given.map (·.1)).filter mannerLetters.contains
    ++ ((a.value? '5').map orderNamed).getD []
  let keys ← (a.values 'k').mapM readKey
  let whole : SortKey := {
    start := { field := 1, character := 1, skipsBlanks := false }, finish := none, manner := general }
  let keys := if keys.isEmpty then [whole] else keys.map fun key =>
    let hasOwn := !key.manner.isEmpty || key.start.skipsBlanks
      || (key.finish.map (·.skipsBlanks)).getD false
    if hasOwn then key
    else
      let skipsBlanks := general.contains 'b'
      { start := { key.start with skipsBlanks }
        finish := key.finish.map fun place => { place with skipsBlanks }
        manner := general.filter (· ≠ 'b') }
  let isUnique := a.has 'u'
  let isReversed := general.contains 'r'
  let last (x y : Raw) : Ordering :=
    if isUnique || a.has 's' then .eq
    else if isReversed then compareBytes y x else compareBytes x y
  let order (x y : Raw) : Ordering := compareByKeys separator x y keys
  let finish := if a.has 'z' then '\x00' else '\n'
  let files := if a.operands.isEmpty then [['-']] else a.operands
  let isChecking := a.has 'c' || a.has 'C'
  if isChecking && 1 < files.length then
    refuse 2 ("extra operand " ++ Quote.always ((files[1]?).getD []) ++ " not allowed with -c".toList)
  let contents ← files.mapM fun file => do
    match ← readOperand file with
    | .ok r => return r
    | .error .isDirectory => refuse 2 ("read failed: " ++ Quote.asNeeded file ++ ": Is a directory".toList)
    | .error .noStream =>
      refuse 2 ((if isChecking then "read failed: " else "stat failed: ") ++ file ++ ": "
        ++ faultText .noStream)
    | .error fault => refuse 2 ("cannot read: " ++ Quote.asNeeded file ++ ": " ++ faultText fault)
  let parts := contents.map (partsOf finish)
  let ls := parts.flatten
  if isChecking then
    let disorder := (ls.zip (ls.drop 1)).zipIdx.find? fun ((x, y), _) =>
      match (order x y).then (last x y) with
      | .gt => true
      | .eq => isUnique
      | .lt => false
    match disorder with
    | none => return 0
    | some ((_, y), i) => do
      if a.has 'c' && (a.value? 'c').getD [] = [] then
        tell (files.headD [] ++ ':' :: Raw.ofNat (i + 2) ++ ": disorder: ".toList ++ y)
      return 1
  else
    let isAtMost (x y : Raw) : Bool := (order x y).then (last x y) != .gt
    let sorted := if a.has 'm' then parts.foldr (fun ls rest => ls.merge rest isAtMost) []
      else ls.mergeSort isAtMost
    let kept := if isUnique then
        (sorted.foldl (fun (done : List Raw) l => match done with
          | x :: _ => if order x l == .eq then done else l :: done
          | [] => [l]) []).reverse
      else sorted
    let r := kept.flatMap (· ++ [finish])
    match a.value? 'o' with
    | none => do
      write r
      return 0
    | some file =>
      match ← writeFile file r with
      | .ok () => return 0
      | .error fault => refuse 2 ("open failed: " ++ Quote.asNeeded file ++ ": " ++ faultText fault)

/-! ## Repeated lines -/

/-- The options of `uniq`. -/
def uniqOptions : OptionTable where
  letters := "cdDf:is:uw:z"
  names := [("count", 'c'), ("repeated", 'd'), ("all-repeated?", 'D'), ("group?", 'G'),
    ("ignore-case", 'i'), ("unique", 'u'), ("skip-fields=", 'f'), ("skip-chars=", 's'),
    ("check-chars=", 'w'), ("zero-terminated", 'z')]

/-- Lines in a row that are the same in what counts. -/
structure LineGroup where
  /-- What counts of them. -/
  key : Raw
  /-- The first line. -/
  first : Raw
  /-- The lines after it, the last one first. -/
  others : List Raw

/-- The lines of a group that are written. -/
def LineGroup.shown (a : Arguments) (g : LineGroup) : List Raw :=
  let count := g.others.length + 1
  if (a.has 'd' || a.has 'D') && count = 1 || a.has 'u' && count ≠ 1 then []
  else if a.has 'D' || a.has 'G' then g.first :: g.others.reverse
  else [if a.has 'c' then padded 7 count ++ ' ' :: g.first else g.first]

/-- Writes lines without those that repeat the one before. -/
def uniq (arguments : List Raw) : Procedure Nat := do
  let a ← readArguments uniqOptions arguments
  refuseExtra 1 2 a
  let number (letter : Char) (what : String) : Procedure (Option Nat) := do
    match a.value? letter with
    | none => return none
    | some r =>
      match Raw.toNat? r with
      | some n => return some n
      | none => refuse 1 (r ++ ": invalid number of ".toList ++ what.toList)
  let fields ← number 'f' "fields to skip"
  let skipped ← number 's' "bytes to skip"
  let compared ← number 'w' "bytes to compare"
  let key (l : Raw) : Raw :=
    let r := fromField none (fields.getD 0) l
    let r := r.drop (skipped.getD 0)
    let r := match compared with
      | some n => r.take n
      | none => r
    if a.has 'i' then r.map Char.toLower else r
  let finish := if a.has 'z' then '\x00' else '\n'
  let separates : Bool := a.has 'G' || (a.value? 'D').any fun r => r = "separate".toList
  let put (isFirst : Bool) (g : LineGroup) : Procedure Bool := do
    match g.shown a with
    | [] => return isFirst
    | ls => do
      if separates && !isFirst then write [finish]
      write (ls.flatMap (· ++ [finish]))
      return false
  let step : Bool × Option LineGroup → Raw → Procedure ((Bool × Option LineGroup) × Bool) :=
    fun (isFirst, group) l => do
      let l := (withoutEnd finish l).1
      let k := key l
      match group with
      | none => return ((isFirst, some { key := k, first := l, others := [] }), true)
      | some g =>
        if g.key = k then return ((isFirst, some { g with others := l :: g.others }), true)
        else
          let isFirst ← put isFirst g
          return ((isFirst, some { key := k, first := l, others := [] }), true)
  match a.operands with
  | [_, target] =>
    if target ≠ ['-'] then
      match ← openFile .write target with
      | .ok i => joinStream 1 i
      | .error fault => refuse 1 (Quote.asNeeded target ++ ": " ++ faultText fault)
  | _ => pure ()
  let file := a.operands.headD ['-']
  match ← withOperand file fun i => eachLine i finish (true, none) step with
  | .error .isDirectory =>
    refuse 1 ("error reading " ++ Quote.always file ++ ": Is a directory".toList)
  | .error .noStream =>
    refuse 1 ("error reading " ++ Quote.always file ++ ": ".toList ++ faultText .noStream)
  | .error fault => refuse 1 (Quote.asNeeded file ++ ": " ++ faultText fault)
  | .ok (isFirst, group) => do
    match group with
    | some g => do let _ ← put isFirst g
    | none => pure ()
    return 0

end Utility

end MapAudit.Script
