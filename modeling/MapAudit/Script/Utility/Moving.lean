import MapAudit.Script.Utility.Making

/-! # Removing, copying and moving files

    Files and directories are removed, copied and moved one operand after another.
    A directory is copied with all that is in it, if that is asked for; whatever is
    there already under the same names is replaced by files of the same kind only.
-/

namespace MapAudit.Script

namespace Utility

open Procedure

/-! ## Removing -/

/-- The options of `rm`. -/
def rmOptions : OptionTable where
  letters := "dfirvIR"
  names := [("force", 'f'), ("interactive?", 'J'), ("one-file-system", 'x'),
    ("no-preserve-root", 'N'), ("preserve-root?", 'P'), ("presume-input-tty", 'Q'),
    ("recursive", 'r'), ("dir", 'd'), ("verbose", 'v')]

/-- The kind of a file, in words. -/
def kindText : FileTree → Raw
  | .file f => if f.content.size = 0 then "regular empty file" else "regular file"
  | .directory _ _ => "directory"
  | .link _ => "symbolic link"
  | .pipe _ => "fifo"
  | .device _ => "character special file"

/-- Removes a node, and first what is in it. It is at most `n` levels high. -/
def removeNode (asks isLoud : Bool) : (n : Nat) → Raw → Procedure Nat
  | 0, _ => return 0
  | n + 1, file => do
    match ← locateName file, ← findName file with
    | .ok location, .ok node => do
      let isDirectory : Bool := node matches .directory _ _
      let isProtected : Bool := match node.attributes? with
        | some a => !a.isWritable
        | none => false
      let guard : Raw := if isProtected then "write-protected " else []
      let names : List Raw := match node with
        | .directory a entries =>
          if a.isReadable then entries.map fun entry => Raw.ofText entry.1 else []
        | _ => []
      if asks && !names.isEmpty then
        if !(← askWhether ("descend into " ++ guard ++ "directory " ++ Quote.always file)) then return 0
      let status ← forEach names fun name => removeNode asks isLoud n (within file name)
      if asks then
        let isAgreed ← askWhether ("remove " ++ guard ++ kindText node ++ ' ' :: Quote.always file)
        if !isAgreed then return status
      if status ≠ 0 then return status
      let isEmpty ← do pure (match ← findName file with
        | .ok (.directory _ (_ :: _)) => false
        | _ => true)
      let isOpen := (← get).machine.tree.isOpenAbove location
      if !isEmpty then
        if names.isEmpty then return (← refuseFile "cannot remove" file .denied) else return status
      if !isOpen then return (← refuseFile "cannot remove" file .denied)
      onMachine (·.remove location)
      if isLoud then
        write ((if isDirectory then "removed directory ".toList else "removed ".toList)
          ++ Quote.always file ++ ['\n'])
      return status
    | .error fault, _ | _, .error fault => refuseFile "cannot remove" file fault

/-- Removes one operand. -/
def removeOperand (a : Arguments) (r : Raw) : Procedure Nat := do
  let isDeep := a.has 'r' || a.has 'R'
  let isForced : Bool := a.lastOf? "fi" = some 'f'
  let asks : Bool := a.lastOf? "fi" = some 'i'
  let isEndless : Bool := r.getLast? = some '/' && ((← findName (withoutSlashes r)) matches .ok (.link _))
  match ← findName r with
  | .error fault =>
    if isForced && (fault = .notFound || fault = .notDirectory || fault = .badName) then return 0
    refuseFile "cannot remove" r fault
  | .ok (.directory _ entries) =>
    if !isDeep && !(a.has 'd' && entries.isEmpty) then
      refuseFile' r (if a.has 'd' then "Directory not empty" else faultText .isDirectory)
    else if lastName r = ['.'] || lastName r = ['.', '.'] then
      tell ("refusing to remove '.' or '..' directory: skipping " ++ Quote.always r)
      return 1
    else if (← locate r).toOption = some [] then
      tell "it is dangerous to operate recursively on '/'"
      tell "use --no-preserve-root to override this failsafe"
      return 1
    else if isEndless then
      let status ← forEach (entries.map fun entry => within r (Raw.ofText entry.1))
        (removeNode asks (a.has 'v') 4096)
      if isForced then return status else refuseFile' r (faultText .notDirectory)
    else removeNode asks (a.has 'v') 4096 r
  | .ok _ => removeNode asks (a.has 'v') 1 r
where
  /-- Complains about what cannot be removed. -/
  refuseFile' (r why : Raw) : Procedure Nat := do
    tell ("cannot remove " ++ Quote.always r ++ ": " ++ why)
    return 1

/-- Removes files, and directories if asked to. -/
def rm (arguments : List Raw) : Procedure Nat := do
  let a ← readArguments rmOptions arguments
  if a.operands.isEmpty && !a.has 'f' then refuseUse 1 "missing operand"
  forEach a.operands (removeOperand a)

/-- Removes one name of a file. -/
def unlink (arguments : List Raw) : Procedure Nat := do
  let a ← readArguments bareOptions arguments
  match a.operands with
  | [] => refuseUse 1 "missing operand"
  | r :: _ => do
    refuseExtra 1 1 a
    match ← locateName r, ← findName r with
    | .error fault, _ | _, .error fault => failed r fault
    | .ok location, .ok node => do
      if node matches .directory _ _ then failed r .isDirectory
      else if !(← get).machine.tree.isOpenAbove location then failed r .denied
      else do
        onMachine (·.remove location)
        return 0
where
  /-- Complains about a name that was not removed. -/
  failed (r : Raw) (fault : FileFault) : Procedure Nat :=
    refuseFile "cannot unlink" r fault

/-- The options of `rmdir`. -/
def rmdirOptions : OptionTable where
  letters := "pv"
  names := [("ignore-fail-on-non-empty", 'i'), ("path", 'p'), ("parents", 'p'), ("verbose", 'v')]

/-- Removes an empty directory. -/
def removeEmpty (a : Arguments) (isFirst : Bool) (r : Raw) : Procedure Nat := do
  if a.has 'v' then
    write ((← get).name ++ ": removing directory, " ++ Quote.always r ++ ['\n'])
  let failed (why : Raw) : Procedure Nat := do
    tell ((if isFirst then "failed to remove " else "failed to remove directory ").toList
      ++ Quote.always r ++ ": " ++ why)
    return 1
  let isLink ← do pure ((← findName (withoutSlashes r)) matches .ok (.link _))
  match ← locateName r, ← findName r with
  | _, .error fault => failed (faultText fault)
  | .ok location, .ok (.directory _ entries) => do
    if lastName r = ['.'] then return (← failed "Invalid argument")
    if isLink then return (← failed "Symbolic link not followed")
    if !entries.isEmpty || lastName r = ['.', '.'] then
      if a.has 'i' then return 0 else return (← failed "Directory not empty")
    if !(← get).machine.tree.isOpenAbove location then return (← failed (faultText .denied))
    onMachine (·.remove location)
    return 0
  | _, .ok _ => failed (faultText .notDirectory)

/-- Removes empty directories, from a path upwards. -/
def removeUpwards (a : Arguments) : List Raw → (isFirst : Bool) → Procedure Nat
  | [], _ => return 0
  | r :: above, isFirst => do
    let status ← removeEmpty a isFirst r
    if status ≠ 0 then return status
    removeUpwards a above false

/-- Removes empty directories. -/
def rmdir (arguments : List Raw) : Procedure Nat := do
  let a ← readArguments rmdirOptions arguments
  if a.operands.isEmpty then refuseUse 1 "missing operand"
  forEach a.operands fun r =>
    if a.has 'p' then removeUpwards a (stepsTo r).reverse true else removeUpwards a [r] true

/-! ## Copying -/

/-- The options of `cp`. -/
def cpOptions : OptionTable where
  letters := "abdfHilLnprst:uvxPRS:TZ"
  names := [("archive", 'a'), ("attributes-only", 'A'), ("backup?", 'B'), ("copy-contents", 'C'),
    ("debug", 'v'), ("dereference", 'L'), ("force", 'f'), ("interactive", 'i'), ("link", 'l'),
    ("no-clobber", 'n'), ("no-dereference", 'P'), ("no-preserve=", '0'),
    ("no-target-directory", 'T'), ("one-file-system", 'x'), ("parents", '1'), ("path", '1'),
    ("preserve?", '7'), ("recursive", 'R'), ("remove-destination", '2'), ("sparse=", '3'),
    ("reflink?", '4'), ("strip-trailing-slashes", '5'), ("suffix=", 'S'), ("symbolic-link", 's'),
    ("target-directory=", 't'), ("update?", '6'), ("verbose", 'v'), ("context?", 'Z')]

/-- What becomes of a file that is there where a copy or a file is to go. -/
inductive Collision where
  /-- It is replaced. -/
  | replaced
  /-- It stays. -/
  | kept
  /-- It stays, and that is an error. -/
  | refused
  /-- It is replaced if it is older. -/
  | updated
  /-- It is replaced if that is agreed to. -/
  | asked
  deriving DecidableEq, Repr

/-- What options ask for where a file is there already. -/
def collisionOf (a : Arguments) (spared : Collision) : Collision :=
  let update := match a.value? '6', a.has 'u' with
    | some r, _ => some (String.ofList r)
    | none, true => some "older"
    | none, false => none
  match a.lastOf? "fin", update with
  | some 'n', _ => spared
  | _, some "none" => .kept
  | _, some "none-fail" => .refused
  | _, some "all" => .replaced
  | some 'i', none => .asked
  | _, some _ => .updated
  | _, none => .replaced

/-- How files are copied. -/
structure CopyManner where
  /-- The arguments that ask for it. -/
  arguments : Arguments
  /-- Whether directories are copied. -/
  isDeep : Bool
  /-- Whether symbolic links are copied as such. -/
  keepsLinks : Bool
  /-- What becomes of what is there. -/
  collision : Collision
  /-- Whether what is there is removed first. -/
  replaces : Bool
  /-- Whether what is there is removed if it cannot be written. -/
  isForced : Bool
  /-- Whether what is there is kept under another name. -/
  isBackedUp : Bool
  /-- Whether copies get the permissions of the files. -/
  keepsMode : Bool
  /-- Whether copies get the times of the files. -/
  keepsTime : Bool
  /-- Whether copies are told about. -/
  isLoud : Bool
  /-- Whether links to the files are made in place of copies, and whether these are
      symbolic. -/
  asLinks : Option Bool
  /-- What the permissions of copies are, if not those of the files. -/
  permissions : Option Nat

/-- Whether backups are asked for. -/
def wantsBackup (a : Arguments) : Bool :=
  (a.has 'b' || a.has 'B' || a.has 'S')
    && !(a.value? 'B').any fun (r : Raw) => r = "none" || r = "off"

/-- How options ask for files to be copied. -/
def copyManner (a : Arguments) : CopyManner :=
  let isDeep := a.has 'r' || a.has 'R' || a.has 'a'
  let preserves (what : String) : Bool :=
    a.has 'p' || a.has 'a' || (a.value? '7').any fun (r : Raw) =>
      r.isEmpty || (r.splitOn ',').any fun part => part = what.toList || part = "all"
  { arguments := a
    isDeep
    keepsLinks := match a.lastOf? "LPda" with
      | some 'L' => false
      | some _ => true
      | none => isDeep && !a.has 'H'
    collision := collisionOf a .kept
    replaces := a.has '2'
    isForced := a.has 'f'
    isBackedUp := wantsBackup a
    keepsMode := preserves "mode"
    keepsTime := preserves "timestamps"
    isLoud := a.has 'v'
    asLinks := match a.lastOf? "ls" with
      | some 'l' => some false
      | some _ => some true
      | none => none
    permissions := none }

/-- Whether two locations are those of one file. -/
def isSameFile (tree : FileTree) (a b : Location) : Bool :=
  a = b || match tree.get? a, tree.get? b with
    | some (.file f), some (.file g) => f.kinship.isSome && f.kinship = g.kinship
    | _, _ => false

/-- What becomes of a file that is there, when a node is to take its place: whether it
    does, and the status if not. -/
def takesPlace (collision : Collision) (mayReplace : Bool) (target : Raw) (node there : FileTree) :
    Procedure (Except Nat Unit) := do
  let time (node : FileTree) : Int := ((node.attributes?).map (·.time)).getD 0
  match collision with
  | .replaced => return .ok ()
  | .kept => return .error 0
  | .refused => do
    tell ("not replacing " ++ Quote.always target)
    return .error 1
  | .updated => return if time there < time node then .ok () else .error 0
  | .asked => do
    let permissions := ((there.attributes?).map (·.permissions)).getD 0o777
    let question := if permissions.testBit 7 then "overwrite " ++ Quote.always target
      else if mayReplace then
        "replace " ++ Quote.always target ++ ", overriding mode ".toList ++ Mode.text permissions
      else "unwritable " ++ Quote.always target ++ " (mode ".toList ++ Mode.digits permissions
        ++ ", " ++ Mode.letters permissions ++ "); try anyway".toList
    if ← askWhether question then return .ok ()
    return .error 1

/-- Fills a file with what is read from a channel. -/
def copyContent (source sink : Nat) : Procedure Unit :=
  stepwise () fun _ => do
    match ← pull source greatPortion with
    | .error _ | .ok [] => return .done ()
    | .ok r => do
      match ← pour sink r with
      | none => return .more ()
      | some fault => do
        tell ("error writing: " ++ fault.text)
        quit 1

/-- Copies what is in a file to where a path leads to. What is there may be removed
    if it cannot be written. -/
def copyFile (m : CopyManner) (source target : Raw) (node : FileTree) : Procedure Nat := do
  let failed (fault : FileFault) : Procedure Nat :=
    refuseFile "cannot create regular file" target fault
  match ← openFile .read source with
  | .error fault => do
    tell ("cannot open " ++ Quote.always source ++ " for reading: " ++ faultText fault)
    return 1
  | .ok i => do
    hold i
    let isNew : Bool := (← find target) matches .error _
    let opened ← openFile .write target
    let (isNew, opened) ← match opened, ← locateName target with
      | .error .denied, .ok place => do
        if m.isForced && !isNew && (← get).machine.tree.isOpenAbove place then
          onMachine (·.remove place)
          pure (true, ← openFile .write target)
        else pure (isNew, opened)
      | _, _ => pure (isNew, opened)
    match opened with
    | .error fault => do
      letGo i
      failed fault
    | .ok sink => do
      hold sink
      copyContent i sink
      letGo sink
      letGo i
      let old := (node.attributes?).getD (.usual 0o666)
      let mask := (← get).self.mask
      match ← locate target with
      | .ok place => adornAt place fun a =>
        let permissions := match m.permissions with
          | some permissions => permissions
          | none =>
            if m.keepsMode then old.permissions
            else if isNew then old.permissions &&& (0o777 ^^^ mask)
            else a.permissions
        { permissions, time := if m.keepsTime then old.time else a.time }
      | .error _ => pure ()
      return 0

/-- Puts a copy of a node that is no directory where a path leads to. -/
def putCopy (m : CopyManner) (source target : Raw) (node : FileTree) : Procedure Nat := do
  let there ← findName target
  let isThere : Bool := there matches .ok _
  match there with
  | .ok old =>
    match ← takesPlace m.collision (m.replaces || m.isForced) target node old with
    | .error status => return status
    | .ok () => pure ()
  | .error _ => pure ()
  let s ← get
  let isSame : Bool := match s.machine.tree.locate s.directory (pathOf source),
      s.machine.tree.locate s.directory (pathOf target) with
    | .ok a, .ok b => isSameFile s.machine.tree a b && isThere
        && !(m.replaces && (there matches .ok (.link _)))
    | _, _ => false
  if isSame && !(node matches .link _) then
    tell (Quote.always source ++ " and " ++ Quote.always target ++ " are the same file".toList)
    return 1
  if target.getLast? = some '/' && !isThere then
    return (← refuseFile "cannot create regular file" target .notDirectory)
  match ← locateName target with
  | .error fault => refuseFile "cannot create regular file" target fault
  | .ok place => do
    let backup ← if m.isBackedUp && isThere then backUp m.arguments place target else pure []
    let tellCopy : Procedure Unit := do
      if m.isLoud then
        write (Quote.always source ++ " -> " ++ Quote.always target ++ backupNote backup ++ ['\n'])
    let isReplaced := m.replaces || m.asLinks.isSome || (node matches .link _)
    if isReplaced && isThere && backup.isEmpty then
      if m.asLinks.isSome && !m.replaces && !m.isForced then
        let what := if m.asLinks = some true then "cannot create symbolic link"
          else "cannot create hard link"
        tell (what.toList ++ ' ' :: Quote.always target ++ " to ".toList ++ Quote.always source
          ++ ": File exists".toList)
        return 1
      if !(← get).machine.tree.isOpenAbove place then
        return (← refuseFile "cannot remove" target .denied)
      onMachine (·.remove place)
      if m.isLoud && m.replaces then write ("removed " ++ Quote.always target ++ ['\n'])
    let isOpen := (← get).machine.tree.isOpenAbove place
    match m.asLinks, node with
    | some true, _ => do
      if !isOpen then return (← refuseFile "cannot create symbolic link" target .denied)
      onMachine (·.put place (.link (pathOf source)))
      tellCopy
      return 0
    | some false, _ => do
      if !isOpen then return (← refuseFile "cannot create hard link" target .denied)
      match ← locateName source with
      | .ok origin =>
        onMachine fun m => { m with tree := putKin origin place m.tree }.stirred place
      | .error _ => pure ()
      tellCopy
      return 0
    | none, .link text => do
      if !isOpen then return (← refuseFile "cannot create symbolic link" target .denied)
      onMachine (·.put place (.link text))
      tellCopy
      return 0
    | none, node => do
      if (← findName target) matches .ok (.link _) then
        match ← find target with
        | .error .notFound => do
          tell ("not writing through dangling symlink " ++ Quote.always target)
          return 1
        | _ => pure ()
      tellCopy
      copyFile m source target node

/-- Copies a node to where a path leads to, and what is in it at most `n` levels
    further down. `first` is the location of the first directory that was made
    meanwhile, which is not to be copied itself: that ends it all. The answer has it
    too. -/
def copyNode (m : CopyManner) (top : Raw × Raw) : (n : Nat) → (first : Option Location) →
    (source target : Raw) → Procedure (Nat × Option Location)
  | 0, first, _, _ => return (0, first)
  | n + 1, first, source, target => do
    let failing (p : Procedure Nat) : Procedure (Nat × Option Location) := do return (← p, first)
    match ← (if m.keepsLinks then findName source else find source) with
    | .error fault => failing (refuseFile "cannot stat" source fault)
    | .ok (.directory attributes entries) => do
      if !m.isDeep then
        tell ("-r not specified; omitting directory " ++ Quote.always source)
        return (1, first)
      if first.isSome && (← locate source).toOption = first then
        tell ("cannot copy a directory, " ++ Quote.always top.1 ++ ", into itself, "
          ++ Quote.always top.2)
        throw (.discard 1)
      let there ← find target
      match there with
      | .ok (.directory _ _) | .error _ => pure ()
      | .ok _ => do
        tell ("cannot overwrite non-directory " ++ Quote.always target ++ " with directory "
          ++ Quote.always source)
        return (1, first)
      if (← locate source).toOption = (← locate target).toOption then
        tell (Quote.always source ++ " and " ++ Quote.always target ++ " are the same file".toList)
        return (1, first)
      let isNew : Bool := there matches .error _
      if isNew then
        match ← makeDirectory false target (withoutSlashes target) with
        | .ok () => if m.isLoud then
            write (Quote.always source ++ " -> " ++ Quote.always target ++ ['\n'])
        | .error fault => return (← failing (refuseDirectory target fault))
      let settle (f : Attributes → Attributes) : Procedure Unit := do
        match ← locate target with
        | .ok place => adornAt place f
        | .error _ => return ()
      if isNew then settle fun a => { a with permissions := a.permissions ||| 0o700 }
      let first ← if isNew && first.isNone then pure (← locate target).toOption else pure first
      let entries ← do pure (match ← find source with
        | .ok (.directory _ entries) => entries
        | _ => entries)
      let (status, first) ← if attributes.isReadable then
          entries.foldlM (fun (status, first) entry => do
            let name := Raw.ofText entry.1
            let (next, first) ← copyNode m top n first (within source name) (within target name)
            return (if status = 0 then next else status, first)) ((0, first) : Nat × Option Location)
        else do pure (← refuseFile "cannot access" source .denied, first)
      let mask := (← get).self.mask
      settle fun a => {
        permissions := if m.keepsMode then attributes.permissions
          else if isNew then attributes.permissions &&& (0o7777 ^^^ mask) else a.permissions
        time := if m.keepsTime then attributes.time else a.time }
      return (status, first)
    | .ok node => do
      if (← find target) matches .ok (.directory _ _) then
        tell ("cannot overwrite directory " ++ Quote.always target ++ " with non-directory".toList)
        return (1, first)
      failing (putCopy m source target node)

/-- Copies an operand to where a path leads to. -/
def copyOperand (m : CopyManner) (source target : Raw) : Procedure Nat :=
  containing do return (← copyNode m (source, target) 4096 none source target).1

/-- Whether a source was named before, of which it is told. -/
def isRepeated (seen : List Location) (source : Raw) : Procedure Bool := do
  match ← locateName (withoutSlashes source), ← findName source with
  | .ok place, .ok node => do
    if !seen.contains place then return false
    let kind := if node matches .directory _ _ then "directory " else "file "
    tell ("warning: source " ++ kind.toList ++ Quote.always source
      ++ " specified more than once".toList)
    return true
  | _, _ => return false

/-- Does something for every source with its target, none of which may be that of
    an earlier one. Sources that are named again may be passed over. -/
def forEachTarget (sources : List Raw) (target : Raw) (isBelow passesRepeats : Bool)
    (f : Raw → Raw → Procedure Nat) : Procedure Nat := do
  let (status, _) ← sources.foldlM (fun (status, done, seen) source => do
    let name := lastName source
    let place := if isBelow && name = ['.', '.'] then target
      else if isBelow then within target name else target
    if passesRepeats then
      if ← isRepeated seen source then return (status, done, seen)
    let seen := ((← locateName (withoutSlashes source)).toOption).toList ++ seen
    let isThere ← do pure ((← findName source) matches .ok _)
    if isThere && done.contains place then
      tell ("will not overwrite just-created " ++ Quote.always place ++ " with "
        ++ Quote.always source)
      return (1, done, seen)
    let next ← f source place
    return (if next = 0 then status else next, if next = 0 then place :: done else done, seen))
    ((0, [], []) : Nat × List Raw × List Location)
  return status

/-- Copies files, and directories if asked to. -/
def cp (arguments : List Raw) : Procedure Nat := do
  let a ← readArguments cpOptions arguments
  if a.has 'n' then
    complain "cp: warning: behavior of -n is non-portable and may change in future; use --update=none instead\n".toList
  let (sources, target, isBelow) ← destinationOf a "cannot stat" false
  let m := copyManner a
  forEachTarget sources target isBelow (!m.isBackedUp) fun source place => do
    if a.has '1' then
      let above := within target (directoryName source)
      let made ← makeSteps m.isLoud (fun _ => return ()) (stepsTo above)
      if made ≠ 0 then return made
      copyOperand m source (within target source)
    else copyOperand m source place

/-- The options of `install`. -/
def installOptions : OptionTable where
  letters := "bcCsDdg:m:o:pt:TvS:Z"
  names := [("backup?", 'B'), ("compare", 'C'), ("context?", 'Z'), ("debug", 'v'),
    ("directory", 'd'), ("group=", 'g'), ("mode=", 'm'), ("no-target-directory", 'T'),
    ("owner=", 'o'), ("preserve-timestamps", 'p'), ("preserve-context", 'P'), ("strip", 's'),
    ("strip-program=", '8'), ("suffix=", 'S'), ("target-directory=", 't'), ("verbose", 'v')]

/-- Makes directories that are missing, and tells about them. -/
def installDirectories (isLoud : Bool) (permissions : Nat) (steps : List Raw) : Procedure Nat := do
  steps.dropLast.forM fun above => do
    let isThere ← do pure ((← find above) matches .ok (.directory _ _))
    if !isThere then
      let made ← makeDirectoryWith 0o755 false above above
      if isLoud && (made matches .ok ()) then
        write ((← get).name ++ ": creating directory " ++ Quote.always above ++ ['\n'])
  let last := steps.getLast?.getD []
  let isThere ← do pure ((← find last) matches .ok (.directory _ _))
  if !isThere then
    match ← makeDirectoryWith 0o777 false last last with
    | .ok () => if isLoud then
        write ((← get).name ++ ": creating directory " ++ Quote.always last ++ ['\n'])
    | .error .denied => do
      tell ("cannot change permissions of " ++ Quote.curly last ++ ": No such file or directory".toList)
      return 1
    | .error fault => return (← refuseDirectory last fault)
  match ← locate last with
  | .ok place => adornAt place fun a => { a with permissions }
  | .error _ => pure ()
  return 0

/-- Copies files and says what may be done with them, or makes directories. -/
def install (arguments : List Raw) : Procedure Nat := do
  let a ← readArguments installOptions arguments
  let permissions (isDirectory : Bool) : Procedure Nat := do
    match a.value? 'm' with
    | none => return 0o755
    | some r =>
      match Mode.ofRaw? r with
      | some mode => return mode.apply isDirectory 0 0
      | none => refuse 1 ("invalid mode " ++ Quote.curly r)
  if a.has 'd' then
    if a.operands.isEmpty then refuseUse 1 "missing file operand"
    let permissions ← permissions true
    forEach a.operands fun r => installDirectories (a.has 'v') permissions (stepsTo r)
  else do
    let permissions ← permissions false
    if a.has 'D' && a.operands.length = 2 && !a.has 't' then
      let above := directoryName ((a.operands[1]?).getD [])
      let _ ← installDirectories (a.has 'v') 0o755 (stepsTo above)
    let (sources, target, isBelow) ← destinationOf a "cannot stat" false
    let m := { copyManner a with
      isDeep := false, keepsLinks := false, replaces := true, asLinks := none
      collision := Collision.replaced, keepsTime := a.has 'p', permissions := some permissions }
    forEachTarget sources target isBelow false fun source place => do
      match ← find source with
      | .ok (.directory _ _) => do
        tell ("omitting directory " ++ Quote.always source)
        return 1
      | .ok _ => copyOperand m source place
      | .error fault => refuseFile "cannot stat" source fault

/-! ## Moving -/

/-- The options of `mv`. -/
def mvOptions : OptionTable where
  letters := "bfint:uvS:TZ"
  names := [("backup?", 'B'), ("context", 'Z'), ("debug", 'v'), ("force", 'f'),
    ("interactive", 'i'), ("no-clobber", 'n'), ("no-copy", 'c'), ("no-target-directory", 'T'),
    ("strip-trailing-slashes", '5'), ("suffix=", 'S'), ("target-directory=", 't'),
    ("update?", '6'), ("verbose", 'v')]

/-- Whether a node may be moved from one location to another. -/
def mayMove (tree : FileTree) (source target : Location) : Bool :=
  let isOpen : Bool := match tree.get? source with
    | some (.directory a _) => a.isWritable || source.dropLast = target.dropLast
    | _ => true
  isOpen && tree.isOpenAbove source && tree.isOpenAbove target

/-- Moves a node to where a path leads to. -/
def moveNode (a : Arguments) (source target : Raw) : Procedure Nat := do
  let failed (why : Raw) : Procedure Nat := do
    tell ("cannot move " ++ Quote.always source ++ " to " ++ Quote.always target ++ ": " ++ why)
    return 1
  match ← locateName source, ← findName source with
  | _, .error fault => refuseFile "cannot stat" source fault
  | .error fault, _ => refuseFile "cannot stat" source fault
  | .ok origin, .ok node => do
    let isDirectory : Bool := node matches .directory _ _
    let target' := if isDirectory then withoutSlashes target else target
    match ← locateName target' with
    | .error fault =>
      let isOpen : Bool := target'.getLast? = some '/' && fault = .notFound
      failed (faultText (if isOpen then .notDirectory else fault))
    | .ok place => do
      let tree := (← get).machine.tree
      let there := tree.get? place
      if there.isNone && target'.getLast? = some '/' then
        return (← failed (faultText .notDirectory))
      if isSameFile tree place origin then
        tell (Quote.always source ++ " and " ++ Quote.always target ++ " are the same file".toList)
        return 1
      let isBlocked : Bool := isDirectory && !wantsBackup a && match there with
        | some (.directory _ _) | none => false
        | some _ => true
      if isDirectory && origin.isPrefixOf place && !isBlocked then
        tell ("cannot move " ++ Quote.always source ++ " to a subdirectory of itself, "
          ++ Quote.always target)
        return 1
      match there with
      | some old =>
        match ← takesPlace (collisionOf a .refused) true target node old with
        | .error status => return status
        | .ok () => pure ()
      | none => pure ()
      let isBackedUp := wantsBackup a && there.isSome
      if !isBackedUp then
        match there with
        | some (.directory _ entries) =>
          if !isDirectory then
            tell ("cannot overwrite directory " ++ Quote.always target ++ " with non-directory".toList)
            return 1
          if !entries.isEmpty || place.isPrefixOf origin then
            tell ("cannot overwrite " ++ Quote.always target ++ ": Directory not empty")
            return 1
        | some _ =>
          if isDirectory then
            tell ("cannot overwrite non-directory " ++ Quote.always target ++ " with directory "
              ++ Quote.always source)
            return 1
        | none => pure ()
      if !mayMove tree origin place then return (← failed (faultText .denied))
      let backup ← if isBackedUp then backUp a place target else pure []
      onMachine (·.moveOver origin place)
      if a.has 'v' then
        write ("renamed " ++ Quote.always source ++ " -> " ++ Quote.always target
          ++ backupNote backup ++ ['\n'])
      return 0

/-- Moves files and directories. -/
def mv (arguments : List Raw) : Procedure Nat := do
  let a ← readArguments mvOptions arguments
  let (sources, target, isBelow) ← destinationOf a "cannot stat" false
  forEachTarget sources target isBelow false (moveNode a)

end Utility

end MapAudit.Script
