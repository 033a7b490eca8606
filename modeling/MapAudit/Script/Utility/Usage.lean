import MapAudit.Script.Pattern
import MapAudit.Script.Utility.Listing

/-! # How much room files take

    `du` adds up how much room files take, directory by directory. A file with several
    names counts only once.
-/

namespace MapAudit.Script

namespace Utility

open Procedure

/-- The options of `du`. -/
def duOptions : OptionTable where
  letters := "0abcd:hHklmsSt:xB:DLPX:"
  names := [("all", 'a'), ("apparent-size", 'A'), ("block-size=", 'B'), ("bytes", 'b'),
    ("count-links", 'l'), ("dereference", 'L'), ("dereference-args", 'D'), ("exclude=", 'E'),
    ("human-readable", 'h'), ("si", '*'), ("max-depth=", 'd'), ("null", '0'),
    ("no-dereference", 'P'), ("one-file-system", 'x'), ("separate-dirs", 'S'), ("summarize", 's'),
    ("total", 'c')]

/-- **Manner** in which room is added up. -/
structure UsageManner where
  /-- The arguments. -/
  arguments : Arguments
  /-- Whether the sizes of files count, and not the blocks that they take. -/
  isApparent : Bool
  /-- The size of the units. -/
  unit : Nat
  /-- How many levels of directories are shown. -/
  depth : Nat
  /-- Names that are passed over. -/
  excluded : List FilePattern

/-- What was added up. -/
structure Usage where
  /-- The room of what is directly in a directory, with the directory. -/
  own : Nat
  /-- The room of what is below. -/
  below : Nat
  /-- The files with several names that were counted. -/
  seen : List Nat
  /-- The status. -/
  status : Nat

namespace UsageManner

variable (m : UsageManner)

/-- The room that a node takes by itself. -/
def roomOf (node : FileTree) : Nat :=
  if m.isApparent then match node with
    | .directory _ _ => 0
    | node => sizeOf node
  else 1024 * blocksOf node

/-- Writes how much room something takes. -/
def put (room : Nat) (name : Raw) : Procedure Unit := do
  let a := m.arguments
  let shown := match a.lastOf? "h*" with
    | some 'h' => if room = 0 then ['0'] else humanSize 1024 room
    | some _ => if room = 0 then ['0'] else humanSize 1000 room
    | none => Raw.ofNat ((room + m.unit - 1) / m.unit)
  write (shown ++ '\t' :: name ++ if a.has '0' then ['\x00'] else ['\n'])

/-- Adds up the room of a node and all below it, at most `n` levels deep. -/
def addUp : (n : Nat) → (level : Nat) → Raw → FileTree → List Nat → Procedure Usage
  | 0, _, _, _, seen => return { own := 0, below := 0, seen, status := 0 }
  | n + 1, level, name, node, seen => do
    let a := m.arguments
    match node with
    | .directory attributes entries => do
      if !attributes.isReadable then
        let _ ← refuseFile "cannot read directory" name .denied
        m.put (m.roomOf node) name
        return { own := m.roomOf node, below := 0, seen, status := 1 }
      let isKept (entry : String × FileTree) : Bool :=
        !m.excluded.any (·.acceptsRaw (Raw.ofText entry.1))
      let start : Usage := { own := m.roomOf node, below := 0, seen, status := 0 }
      let u ← (entries.filter isKept).foldlM (fun u (key, inner) => do
        let path := within name (Raw.ofText key)
        let found ← find path
        let isFollowed := a.has 'L' && (inner matches .link _)
        let inner := if isFollowed then found.toOption.getD inner else inner
        let v ← addUp n (level + 1) path inner u.seen
        let isDirectory : Bool := inner matches .directory _ _
        return {
          own := if isDirectory then u.own else u.own + v.own
          below := if isDirectory then u.below + v.own + v.below else u.below
          seen := v.seen
          status := max u.status v.status }) start
      if level ≤ m.depth then m.put (if a.has 'S' then u.own else u.own + u.below) name
      return u
    | node => do
      let number : Option Nat := match node with
        | .file f => f.kinship
        | _ => none
      let isRepeated := !a.has 'l' && number.any seen.contains
      if isRepeated then return { own := 0, below := 0, seen, status := 0 }
      if level = 0 || (a.has 'a' && level ≤ m.depth) then m.put (m.roomOf node) name
      return { own := m.roomOf node, below := 0, seen := number.toList ++ seen, status := 0 }

end UsageManner

/-- Says how much room files take. -/
def du (arguments : List Raw) : Procedure Nat := do
  let a ← readArguments duOptions arguments
  let depth ← match a.value? 'd' with
    | none => pure (if a.has 's' then 0 else 4096)
    | some r => match Raw.toNat? r with
      | some n => pure n
      | none => refuseUse 1 ("invalid maximum depth ".toList ++ Quote.curly r)
  if a.has 's' && a.has 'a' then
    refuseUse 1 "cannot both summarize and show all entries".toList
  if a.has 's' && 0 < depth then
    tell ("warning: summarizing conflicts with --max-depth=".toList ++ Raw.ofNat depth)
    complain (helpHint (← get).name)
    quit 1
  let unit := match a.lastOf? "bkmB" with
    | some 'b' => 1
    | some 'm' => 1048576
    | some 'B' => ((a.value? 'B').bind Raw.toNat?).getD 1024
    | _ => 1024
  let m : UsageManner := {
    arguments := a, unit := max 1 unit, depth, isApparent := a.has 'b' || a.has 'A'
    excluded := (a.values 'E').map FilePattern.ofRaw }
  let operands := if a.operands.isEmpty then [['.']] else a.operands
  let u ← operands.foldlM (fun u name => do
    match ← (if a.has 'L' || a.has 'D' || a.has 'H' then find name else findName name) with
    | .error fault => do
      let _ ← refuseFile "cannot access" name fault
      return { u with status := 1 }
    | .ok node => do
      let v ← m.addUp 4096 0 name node u.seen
      return { u with
        own := u.own + v.own + v.below, seen := v.seen, status := max u.status v.status })
    ({ own := 0, below := 0, seen := [], status := 0 } : Usage)
  if a.has 'c' then m.put u.own "total".toList
  return u.status

end Utility

end MapAudit.Script
