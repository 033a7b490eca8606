import MapAudit.Script.Utility.Arguments

/-! # Utilities on names

    These take paths apart, and tell what symbolic links stand for and where paths
    lead to.
-/

namespace MapAudit.Script

namespace Utility

open Procedure

/-- A path without the slashes at its end. -/
def withoutSlashes (r : Raw) : Raw :=
  match r.reverse.dropWhile (· = '/') with
  | [] => if r.isEmpty then [] else ['/']
  | kept => kept.reverse

/-- The last name in a path. -/
def lastName (r : Raw) : Raw :=
  let trimmed := withoutSlashes r
  if trimmed = ['/'] then trimmed else (trimmed.reverse.takeWhile (· ≠ '/')).reverse

/-- The directory part of a path. -/
def directoryName (r : Raw) : Raw :=
  let trimmed := r.reverse.dropWhile (· = '/')
  let above := (trimmed.dropWhile (· ≠ '/')).dropWhile (· = '/')
  if !above.isEmpty then above.reverse
  else if r.head? = some '/' then ['/'] else ['.']

/-- The path of a name in a directory. -/
def within (directory name : Raw) : Raw :=
  if directory.getLast? = some '/' then directory ++ name else directory ++ '/' :: name

/-- A name without an end, unless it is nothing else. -/
def withoutSuffix (suffix r : Raw) : Raw :=
  if suffix.isSuffixOf r && suffix.length < r.length then r.take (r.length - suffix.length) else r

/-- What ends an item of output. -/
def itemEnd (a : Arguments) : Raw :=
  if a.has 'z' then ['\x00'] else ['\n']

/-- The options of `basename`. -/
def basenameOptions : OptionTable where
  letters := "as:z"
  names := [("multiple", 'a'), ("suffix=", 's'), ("zero", 'z')]
  endsEarly := true

/-- Writes the last names of paths. -/
def basename (arguments : List Raw) : Procedure Nat := do
  let a ← readArguments basenameOptions arguments
  let put (suffix r : Raw) : Procedure Unit := do
    let name := lastName r
    write ((if name = ['/'] then name else withoutSuffix suffix name) ++ itemEnd a)
  match a.operands with
  | [] => refuseUse 1 "missing operand"
  | r :: rest =>
    if a.has 'a' || a.has 's' then
      (r :: rest).forM (put ((a.value? 's').getD []))
      return 0
    else
      refuseExtra 1 2 a
      put (rest.headD []) r
      return 0

/-- The options of `dirname`. -/
def dirnameOptions : OptionTable where
  letters := "z"
  names := [("zero", 'z')]
  endsEarly := true

/-- Writes the directory parts of paths. -/
def dirname (arguments : List Raw) : Procedure Nat := do
  let a ← readArguments dirnameOptions arguments
  if a.operands.isEmpty then refuseUse 1 "missing operand"
  a.operands.forM fun r => write (directoryName r ++ itemEnd a)
  return 0

/-! ## Where paths lead to -/

/-- How much of a path has to be there. -/
inductive Presence where
  /-- Everything. -/
  | all
  /-- Everything but the last name. -/
  | allButLast
  /-- Nothing. -/
  | none
  deriving DecidableEq, Repr

/-- The location that the start of a path leads to which is there, and then the
    rest of it. -/
def locateAnyway (tree : FileTree) (base : Location) (p : Path) : Except FileFault Location :=
  let steps := p.ancestors
  match steps.findSome? fun q => match tree.find base q with
    | .ok _ => (tree.locate base q).toOption.map fun location => (q, location)
    | .error _ => none with
  | some (q, location) =>
    let rest := (p.segments.drop q.segments.length).filter (!Path.isIdle ·)
    .ok (rest.foldl (fun here name => if name = ".." then here.dropLast else here ++ [name]) location)
  | none =>
    let rest := p.segments.filter (!Path.isIdle ·)
    .ok (rest.foldl (fun here name => if name = ".." then here.dropLast else here ++ [name])
      (if p.isAbsolute then [] else base))

/-- The location that a path leads to, as far as it has to be there. -/
def canonical (presence : Presence) (r : Raw) : Procedure (Except FileFault Location) := do
  let s ← get
  let tree := s.machine.tree
  let p := pathOf r
  match presence with
  | .all => return (tree.find s.directory p).bind fun _ => tree.locate s.directory p
  | .allButLast => return tree.locate s.directory p
  | .none =>
    if r.isEmpty then return .error .notFound
    return locateAnyway tree s.directory p

/-- A path without idle parts, and without the parts that are left again. -/
def simplified (base : Location) (r : Raw) : Location :=
  let p := pathOf r
  (p.segments.filter (!Path.isIdle ·)).foldl (fun here name =>
    if name = ".." then here.dropLast else here ++ [name]) (if p.isAbsolute then [] else base)

/-- The path from one location to another. -/
def relativeText : Location → Location → Raw
  | a :: source, b :: target =>
    if a = b then relativeText source target
    else climb (a :: source) (b :: target)
  | source, target => climb source target
where
  /-- All the way up, and down again. -/
  climb (source target : Location) : Raw :=
    match source.map (fun _ => "..".toList) ++ target.map Raw.ofText with
    | [] => ['.']
    | names => ['/'].intercalate names

/-- The options of `readlink`. -/
def readlinkOptions : OptionTable where
  letters := "efmnqsvz"
  names := [("canonicalize", 'f'), ("canonicalize-existing", 'e'), ("canonicalize-missing", 'm'),
    ("no-newline", 'n'), ("quiet", 'q'), ("silent", 's'), ("verbose", 'v'), ("zero", 'z')]

/-- Writes what symbolic links stand for. -/
def readlink (arguments : List Raw) : Procedure Nat := do
  let a ← readArguments readlinkOptions arguments
  if a.operands.isEmpty then refuseUse 1 "missing operand"
  let finish : Raw := if a.has 'n' && a.operands.length = 1 then [] else itemEnd a
  let presence : Option Presence := (a.lastOf? "efm").map fun c => match c with
    | 'e' => .all
    | 'f' => .allButLast
    | _ => .none
  let isLoud : Bool := a.lastOf? "qsv" = some 'v'
  forEach a.operands fun r => do
    let found : Except Raw Raw ← match presence with
      | some presence =>
        match ← canonical presence r with
        | .ok location => pure (.ok (locationText location))
        | .error fault => pure (.error (faultText fault))
      | none =>
        match ← findName r with
        | .ok (.link target) => pure (.ok (Raw.ofText target.text))
        | .ok _ => pure (.error "Invalid argument".toList)
        | .error fault => pure (.error (faultText fault))
    match found with
    | .ok text => do
      write (text ++ finish)
      return 0
    | .error why => do
      if isLoud then tell (Quote.asNeeded r ++ ": " ++ why)
      return 1

/-- The options of `realpath`. -/
def realpathOptions : OptionTable where
  letters := "eLmPqsz"
  names := [("canonicalize-existing", 'e'), ("canonicalize-missing", 'm'),
    ("relative-to=", 'R'), ("relative-base=", 'B'), ("quiet", 'q'), ("strip", 's'),
    ("no-symlinks", 's'), ("zero", 'z'), ("logical", 'L'), ("physical", 'P')]

/-- Writes where paths lead to. -/
def realpath (arguments : List Raw) : Procedure Nat := do
  let a ← readArguments realpathOptions arguments
  if a.operands.isEmpty then refuseUse 1 "missing operand"
  let presence : Presence := match a.lastOf? "em" with
    | some 'e' => .all
    | some _ => .none
    | none => .allButLast
  let place (r : Raw) : Procedure (Except FileFault Location) := do
    if a.has 's' then return .ok (simplified (← get).directory r) else canonical presence r
  let origin : Option Location ← match a.value? 'R' with
    | none => pure none
    | some r => do pure (← place r).toOption
  forEach a.operands fun r => do
    match ← place r with
    | .ok location => do
      write ((match origin with
        | some above => relativeText above location
        | none => locationText location) ++ itemEnd a)
      return 0
    | .error fault => do
      if !a.has 'q' then
        tell ((if r.isEmpty then Quote.always r else Quote.asNeeded r) ++ ": " ++ faultText fault)
      return 1

end Utility

end MapAudit.Script
