import MapAudit.Script.Utility.Input

/-! # Tabulators and blanks

    `expand` writes blanks in place of tabulators, and `unexpand` tabulators in place of
    blanks. The stops of a line are at multiples of a number, or at given columns and then
    at regular distances.
-/

namespace MapAudit.Script

namespace Utility

open Procedure

/-! ## Stops -/

/-- **Stops** of tabulators. -/
structure TabStops where
  /-- The columns of the first ones. -/
  columns : List Nat
  /-- All multiples of this number are stops after them. -/
  multiple : Option Nat
  /-- There are stops in such a distance after them. -/
  distance : Option Nat

namespace TabStops

/-- The next stop after a column, if there is one. -/
def after (t : TabStops) (column : Nat) : Option Nat :=
  match t.columns, t.multiple, t.distance with
  | [n], none, none => some (column + (n - column % n))
  | columns, multiple, distance =>
    match columns.find? (column < ·), multiple, distance with
    | some stop, _, _ => some stop
    | none, some n, _ => some (column + (n - column % n))
    | none, none, some n => some (column + (n - (column - columns.getLast?.getD 0) % n))
    | none, none, none => if columns.isEmpty then some (column + (8 - column % 8)) else none

/-- Stops while they are read, and whether they can still be used. -/
structure Reading where
  /-- The stops. -/
  stops : TabStops
  /-- What marks the number that is being read. -/
  mark : Option Char
  /-- The digits of the number that is being read. -/
  digits : Raw
  /-- Whether nothing was wrong. -/
  isGood : Bool

/-- Reads the end of a number. -/
def Reading.finish (r : Reading) : Procedure Reading := do
  match Raw.toNat? r.digits, r.mark with
  | none, _ => return r
  | some n, none => return {
      r with stops := { r.stops with columns := r.stops.columns ++ [n] }, digits := [] }
  | some n, some c => do
    let isTaken := if c = '/' then r.stops.multiple.isSome else r.stops.distance.isSome
    if isTaken then
      tell ('\x27' :: c :: "' specifier only allowed with the last value".toList)
    let some' := if n = 0 then none else some n
    let stops := if c = '/' then { r.stops with multiple := some' }
      else { r.stops with distance := some' }
    return { r with stops, digits := [], isGood := r.isGood && !isTaken }

/-- Reads a list of stops. -/
def readList (r : Reading) : Raw → Procedure Reading
  | [] => if r.isGood then r.finish else return r
  | c :: rest => do
    if c = ',' || c = ' ' || c = '\t' then readList (← r.finish) rest
    else if c = '/' || c = '+' then
      if r.digits.isEmpty then readList { r with mark := some c } rest
      else do
        tell ('\x27' :: c :: "' specifier not at start of number: ".toList ++ Quote.curly (c :: rest))
        readList { r with mark := some c, isGood := false } rest
    else if c.isDigit then readList { r with digits := r.digits ++ [c] } rest
    else do
      tell ("tab size contains invalid character(s): ".toList ++ Quote.curly (c :: rest))
      return { r with isGood := false }

/-- Makes sure that stops make sense. -/
def check (t : TabStops) : Procedure Unit := do
  if t.columns.contains 0 then refuse 1 "tab size cannot be 0".toList
  if (t.columns.zip (t.columns.drop 1)).any fun (a, b) => b ≤ a then
    refuse 1 "tab sizes must be ascending".toList
  if t.multiple.isSome && t.distance.isSome then
    refuse 1 "'/' specifier is mutually exclusive with '+'".toList

/-- The stops that options say. -/
def ofArguments (a : Arguments) : Procedure TabStops := do
  let lists := a.given.filterMap fun (c, r) =>
    if c = 't' then some r else if c.isDigit then some (c :: r) else none
  let empty : TabStops := { columns := [], multiple := none, distance := none }
  let r ← lists.foldlM (fun r text => do
    let r ← readList { r with mark := none, digits := [] } text
    if r.isGood then return r else quit 1)
    ({ stops := empty, mark := none, digits := [], isGood := true } : Reading)
  check r.stops
  return r.stops

end TabStops

/-! ## Blanks for tabulators -/

/-- The options of `expand`. -/
def expandOptions : OptionTable where
  letters := "it:0::1::2::3::4::5::6::7::8::9::"
  names := [("initial", 'i'), ("tabs=", 't')]

/-- A line from a column on with blanks in place of its tabulators, perhaps only of those
    `atStart`. -/
def expandedLine (t : TabStops) (atStart : Bool) : (column : Nat) → Raw → Raw
  | _, [] => []
  | column, c :: rest =>
    if c = '\t' then
      let stop := (t.after column).getD (column + 1)
      List.replicate (stop - column) ' ' ++ expandedLine t atStart stop rest
    else
      let column := if c = '\x08' then column - 1 else column + 1
      if atStart && c ≠ ' ' then c :: rest else c :: expandedLine t atStart column rest

/-- What is written of lines, file by file. The answer is a status. -/
def rewriteLines (operands : List Raw) (f : Raw → Raw) : Procedure Nat := do
  let (_, isGood) ← throughLines operands '\n' tellFile () fun _ l => write (f l)
  return if isGood then 0 else 1

/-- Writes files with blanks in place of tabulators. -/
def expand (arguments : List Raw) : Procedure Nat := do
  let a ← readArguments expandOptions arguments
  let t ← TabStops.ofArguments a
  rewriteLines a.operands (expandedLine t (a.has 'i') 0)

/-! ## Tabulators for blanks -/

/-- The options of `unexpand`. -/
def unexpandOptions : OptionTable where
  letters := "at:0::1::2::3::4::5::6::7::8::9::"
  names := [("all", 'a'), ("first-only", 'f'), ("tabs=", 't')]

/-- A line while blanks in it are replaced. -/
structure Unexpanding where
  /-- The column. -/
  column : Nat := 0
  /-- The blanks that are not written yet. -/
  pending : Raw := []
  /-- Whether one of them stood right before a stop. -/
  isBeforeStop : Bool := false
  /-- Whether a blank was the last thing that came. -/
  isAfterBlank : Bool := true
  /-- Whether blanks are replaced. -/
  isActive : Bool := true

/-- What is written of the blanks that were held back. -/
def Unexpanding.released (u : Unexpanding) : Raw :=
  if 1 < u.pending.length && u.isBeforeStop then '\t' :: u.pending.drop 1 else u.pending

/-- A line with tabulators in place of its blanks, perhaps only of those `atStart`. -/
def unexpandedLine (t : TabStops) (atStart : Bool) (u : Unexpanding) : Raw → Raw
  | [] => u.released
  | c :: rest =>
    if !u.isActive then c :: rest
    else if c = ' ' || c = '\t' then
      match t.after u.column with
      | none => u.released ++ c :: rest
      | some stop =>
        let column := if c = '\t' then stop else u.column + 1
        if c = ' ' && !(u.isAfterBlank && column = stop) then
          unexpandedLine t atStart { u with
            column, pending := u.pending ++ [c], isAfterBlank := true
            isBeforeStop := u.isBeforeStop || column = stop } rest
        else
          let kept := if u.isBeforeStop then ['\t'] else []
          kept ++ '\t' :: unexpandedLine t atStart { column } rest
    else
      let column := if c = '\x08' then u.column - 1 else u.column + 1
      u.released ++ c :: unexpandedLine t atStart
        { column, isAfterBlank := false, isActive := !atStart } rest

/-- Writes files with tabulators in place of blanks. -/
def unexpand (arguments : List Raw) : Procedure Nat := do
  let a ← readArguments unexpandOptions arguments
  let t ← TabStops.ofArguments a
  let atStart := a.has 'f' || !"at0123456789".toList.any a.has
  rewriteLines a.operands (unexpandedLine t atStart {})

end Utility

end MapAudit.Script
