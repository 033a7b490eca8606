import MapAudit.Script.Utility.Comparing

/-! # Joining files

    `join` puts lines of two files together that have a field in common. Both files have to
    be sorted by that field; it is complained about lines that are not, once it matters.
-/

namespace MapAudit.Script

namespace Utility

open Procedure

/-! ## Options -/

/-- The options of `join`. -/
def joinOptions : OptionTable where
  letters := "a:e:i1:2:j:o:t:v:z"
  names := [("ignore-case", 'i'), ("check-order", 'c'), ("nocheck-order", 'n'),
    ("zero-terminated", 'z'), ("header", 'h')]

/-- A field that is written: the one that lines have in common, or one of a file. -/
inductive JoinField where
  /-- The field that lines have in common. -/
  | common
  /-- A field of the first or the second file. -/
  | ofFile (isFirst : Bool) (place : Nat)
  deriving DecidableEq, Repr

/-- **Manner** in which lines are joined. -/
structure JoinManner where
  /-- The place of the field in the lines of the first file. -/
  first : Nat
  /-- The place of the field in the lines of the second file. -/
  second : Nat
  /-- What separates fields, if it is not any blanks. A line break separates nothing. -/
  separator : Option Char
  /-- What stands for a field that is empty or missing. -/
  filler : Raw
  /-- The fields that are written, if they are given. -/
  fields : Option (List JoinField)
  /-- Whether every line has as many fields as the first one. -/
  isUniform : Bool
  /-- Whether lines are written that belong together. -/
  showsPairs : Bool
  /-- Whether other lines of the first file are written. -/
  showsFirst : Bool
  /-- Whether other lines of the second file are written. -/
  showsSecond : Bool
  /-- Whether capital letters count as small ones. -/
  ignoresCase : Bool
  /-- Whether the order is checked: always, never, or once it matters. -/
  check : Option Bool
  /-- Whether the first lines are headers. -/
  hasHeader : Bool
  /-- What ends a line. -/
  finish : Char

/-- A line with its fields and its number. -/
structure JoinLine where
  /-- The number. -/
  number : Nat
  /-- The line. -/
  text : Raw
  /-- The fields. -/
  fields : List Raw

/-- The place of a field. -/
def demandPlace (r : Raw) : Procedure Nat := do
  match Raw.toNat? r with
  | some n => if n ≠ 0 then return n - 1
  | none => pure ()
  refuse 1 ("invalid field number: ".toList ++ Quote.curly r)

/-- The place that several options say, which have to agree. -/
def agreedPlace (places : List Nat) : Procedure Nat := do
  match places with
  | [] => return 0
  | n :: rest =>
    match rest.find? (· ≠ n) with
    | none => return n
    | some k =>
      refuse 1 ("incompatible join fields ".toList ++ Raw.ofNat n ++ ", ".toList ++ Raw.ofNat k)

/-- The fields that a list says. -/
def demandFields (r : Raw) : Procedure (List JoinField) :=
  ((r.splitBy fun c d => isMark c = isMark d).filter fun part => !part.any isMark).mapM fun part =>
    match part with
    | ['0'] => return .common
    | '1' :: '.' :: place => return .ofFile true (← demandPlace place)
    | '2' :: '.' :: place => return .ofFile false (← demandPlace place)
    | '0' :: _ | '1' :: _ | '2' :: _ =>
      refuse 1 ("invalid field specifier: ".toList ++ Quote.curly part)
    | _ => refuse 1 ("invalid file number in field spec: ".toList ++ Quote.curly part)
where
  /-- Whether a character stands between two fields of a list. -/
  isMark (c : Char) : Bool :=
    c = ',' || c = ' ' || c = '\t'

/-- What separates fields. -/
def demandSeparator (values : List Raw) : Procedure (Option Char) := do
  let marks : List Char ← values.mapM fun r => match r with
    | [] => return '\n'
    | [c] => return c
    | ['\\', '0'] => return '\x00'
    | r => refuse 1 ("multi-character tab ".toList ++ Quote.curly r)
  match marks.eraseDups with
  | [] => return none
  | [c] => return some c
  | _ => refuse 1 "incompatible tabs".toList

/-- Reads how lines are joined. -/
def joinManner (a : Arguments) : Procedure JoinManner := do
  let files ← (a.given.filter fun (c, _) => c = 'a' || c = 'v').mapM fun (c, r) => do
    match r with
    | ['1'] => return (c, true)
    | ['2'] => return (c, false)
    | r => refuse 1 ("invalid field number: ".toList ++ Quote.curly r)
  let places (c : Char) : Procedure (List Nat) :=
    (a.given.filter fun (d, _) => d = c || d = 'j').mapM fun (_, r) => demandPlace r
  let isAutomatic (r : Raw) : Bool := r = "auto".toList
  let lists := a.values 'o'
  let fields ← (lists.filter (!isAutomatic ·)).mapM demandFields
  if 1 < (a.values 'e').eraseDups.length then
    refuse 1 "conflicting empty-field replacement strings".toList
  return {
    first := ← agreedPlace (← places '1')
    second := ← agreedPlace (← places '2')
    separator := ← demandSeparator (a.values 't')
    filler := (a.value? 'e').getD []
    fields := if fields.isEmpty then none else some fields.flatten
    isUniform := lists.any isAutomatic
    showsPairs := !a.has 'v'
    showsFirst := files.any (·.2)
    showsSecond := files.any (!·.2)
    ignoresCase := a.has 'i'
    check := (a.lastOf? "cn").map (· = 'c')
    hasHeader := a.has 'h'
    finish := if a.has 'z' then '\x00' else '\n' }

/-! ## Lines -/

/-- The fields of a line between blanks. There is an empty one after blanks at the end. -/
def blankFields : (n : Nat) → Raw → List Raw
  | 0, _ => []
  | n + 1, r =>
    let isGap (c : Char) : Bool := c = ' ' || c = '\t' || c = '\n'
    let field := r.takeWhile (!isGap ·)
    match r.drop field.length with
    | [] => [field]
    | rest => field :: blankFields n (rest.dropWhile isGap)

namespace JoinManner

variable (m : JoinManner)

/-- The fields of a line. -/
def fieldsOf (l : Raw) : List Raw :=
  match m.separator with
  | some '\n' => if l.isEmpty then [] else [l]
  | some c => if l.isEmpty then [] else l.splitOn c
  | none =>
    let l := l.dropWhile fun c => c = ' ' || c = '\t' || c = '\n'
    if l.isEmpty then [] else blankFields (l.length + 1) l

/-- The lines of a text. -/
def linesOf (r : Raw) : List JoinLine :=
  ((partsOf m.finish r).zipIdx 1).map fun (text, number) =>
    { number, text, fields := m.fieldsOf text }

/-- How lines compare by fields at two places. -/
def compare (x : JoinLine) (i : Nat) (y : JoinLine) (j : Nat) : Ordering :=
  let folded (r : Raw) : Raw := if m.ignoresCase then r.map Char.toUpper else r
  compareBytes (folded (x.fields.getD i [])) (folded (y.fields.getD j []))

/-- The text of a field. -/
def fieldText (i : Nat) (l : Option JoinLine) : Raw :=
  let r := (l.map fun l => l.fields.getD i []).getD []
  if r.isEmpty then m.filler else r

/-- The text of a line of both files, one of which may be missing. Without a list of fields
    there are as many of each file as `counts` says, or all of the line. -/
def joined (counts : Option (Nat × Nat)) (x y : Option JoinLine) : Raw :=
  let common := if x.isSome then m.fieldText m.first x else m.fieldText m.second y
  let texts := match m.fields with
    | some fields => fields.map fun f => match f with
      | .common => common
      | .ofFile isFirst i => m.fieldText i (if isFirst then x else y)
    | none =>
      let others (l : Option JoinLine) (place count : Nat) : List Raw :=
        ((List.range count).filter (· ≠ place)).map fun i => m.fieldText i l
      let count (l : Option JoinLine) : Nat := (l.map (·.fields.length)).getD 0
      let (first, second) := counts.getD (count x, count y)
      common :: others x m.first first ++ others y m.second second
  [m.separator.getD ' '].intercalate texts ++ [m.finish]

end JoinManner

/-! ## Joining -/

/-- What happens while lines are joined. -/
inductive JoinEvent where
  /-- A line is written. -/
  | line (r : Raw)
  /-- A line of the first or the second file is not in order. -/
  | disorder (isFirst : Bool) (l : JoinLine)

/-- The state of joining. -/
structure Joining where
  /-- What happened, the last first. -/
  events : List JoinEvent := []
  /-- Whether there was a line without another one. -/
  isChecked : Bool := false
  /-- Whether it is known that the first file is not in order. -/
  isFirstWrong : Bool := false
  /-- Whether it is known that the second file is not in order. -/
  isSecondWrong : Bool := false

/-- Writes a line. -/
def Joining.put (s : Joining) (isShown : Bool) (r : Raw) : Joining :=
  if isShown then { s with events := .line r :: s.events } else s

namespace JoinManner

variable (m : JoinManner)

/-- Checks the order of lines that are read one after another. -/
def read (isFirst : Bool) : List JoinLine → Joining → Joining
  | x :: y :: rest, s =>
    let place := if isFirst then m.first else m.second
    let isKnown := if isFirst then s.isFirstWrong else s.isSecondWrong
    let isWrong := m.check.getD s.isChecked && !isKnown && m.compare x place y place = .gt
    let s := if !isWrong then s
      else if isFirst then { s with events := .disorder true y :: s.events, isFirstWrong := true }
      else { s with events := .disorder false y :: s.events, isSecondWrong := true }
    read isFirst (y :: rest) s
  | _, s => s

/-- Joins lines in at most `n` steps. -/
def join (counts : Option (Nat × Nat)) : (n : Nat) → List JoinLine → List JoinLine → Joining →
    Joining
  | n + 1, x :: xs, y :: ys, s =>
    match m.compare x m.first y m.second with
    | .lt =>
      let s := s.put m.showsFirst (m.joined counts (some x) none)
      let s := m.read true (x :: xs.take 1) s
      join counts n xs (y :: ys) { s with isChecked := true }
    | .gt =>
      let s := s.put m.showsSecond (m.joined counts none (some y))
      let s := m.read false (y :: ys.take 1) s
      join counts n (x :: xs) ys { s with isChecked := true }
    | .eq =>
      let lefts := x :: xs.takeWhile fun l => m.compare l m.first y m.second = .eq
      let rights := y :: ys.takeWhile fun l => m.compare x m.first l m.second = .eq
      let s := m.read true ((x :: xs).take (lefts.length + 1)) s
      let s := m.read false ((y :: ys).take (rights.length + 1)) s
      let pairs := lefts.flatMap fun l => rights.map fun r => m.joined counts (some l) (some r)
      let s := pairs.foldl (fun s r => s.put m.showsPairs r) s
      join counts n ((x :: xs).drop lefts.length) ((y :: ys).drop rights.length) s
  | _, xs, ys, s =>
    let s := { s with isChecked := s.isChecked || (!xs.isEmpty && !ys.isEmpty) }
    let s := xs.foldl (fun s l => s.put m.showsFirst (m.joined counts (some l) none)) s
    let s := m.read true xs s
    let s := ys.foldl (fun s l => s.put m.showsSecond (m.joined counts none (some l))) s
    m.read false ys s

/-- **Joining** the lines of two texts. -/
def events (xs ys : List JoinLine) : List JoinEvent :=
  let count (ls : List JoinLine) : Nat := (ls.head?.map (·.fields.length)).getD 0
  let counts := if m.isUniform then some (count xs, count ys) else none
  let n := xs.length + ys.length + 1
  let s : Joining :=
    if m.hasHeader then
      let isAny := !xs.isEmpty || !ys.isEmpty
      let s := ({} : Joining).put isAny (m.joined counts xs.head? ys.head?)
      m.join counts n (xs.drop 1) (ys.drop 1) s
    else m.join counts n xs ys {}
  s.events.reverse

end JoinManner

/-- Joins the lines of two files. -/
def join (arguments : List Raw) : Procedure Nat := do
  let a ← readArguments joinOptions arguments
  let m ← joinManner a
  match a.operands with
  | [] => refuseUse 1 "missing operand".toList
  | [r] => refuseUse 1 ("missing operand after ".toList ++ Quote.curly (arguments.getLast?.getD r))
  | _ :: _ :: r :: _ => refuseUse 1 ("extra operand ".toList ++ Quote.always r)
  | [first, second] => do
    if first = ['-'] && second = ['-'] then
      refuse 1 "both files cannot be standard input: No such file or directory".toList
    let r ← demandFile 1 first
    let s ← demandFile 1 second
    let events := m.events (m.linesOf r) (m.linesOf s)
    events.forM fun event => do
      match event with
      | .line r => write r
      | .disorder isFirst l => do
        flush
        tell ((if isFirst then first else second) ++ ':' :: Raw.ofNat l.number
          ++ ": is not sorted: ".toList ++ l.text)
        if m.check = some true then quit 1
    if events.any (· matches .disorder _ _) then
      flush
      refuse 1 "input is not in sorted order".toList
    return 0

end Utility

end MapAudit.Script
