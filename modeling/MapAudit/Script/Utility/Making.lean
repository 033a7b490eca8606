import MapAudit.Script.Mode
import MapAudit.Script.Occasion
import MapAudit.Script.Utility.Lines
import MapAudit.Script.Utility.Names

/-! # Making files

    These make directories, links, pipes with names and files, and change what may
    be done with them and when they were changed. What cannot be done for one
    operand is complained about, and the others are still looked at.
-/

namespace MapAudit.Script

namespace Utility

open Procedure

/-- The moment that it is now. -/
def presentMoment : Procedure Moment := do
  return .ofNanoseconds (← get).machine.time

/-- Changes the attributes of the node at a location. -/
def adornAt (location : Location) (f : Attributes → Attributes) : Procedure Unit :=
  changeTree fun tree => match tree.get? location with
    | some (.file file) => tree.revise location { file with attributes := f file.attributes }
    | _ => tree.adorn location f

/-! ## Modes -/

/-- The options of `chmod`. -/
def chmodOptions : OptionTable where
  letters := "Rcfvr::w::x::X::s::t::u::g::o::a::,::+::=::0::1::2::3::4::5::6::7::"
  names := [("changes", 'c'), ("recursive", 'R'), ("no-preserve-root", 'N'), ("preserve-root", 'P'),
    ("quiet", 'f'), ("reference=", 'F'), ("silent", 'f'), ("verbose", 'v')]

/-- How permissions are changed. -/
structure ModeChange where
  /-- The mode. -/
  mode : Mode
  /-- Whether the mode was written like an option, so that it is a surprise if some
      permissions stay. -/
  isOptional : Bool

/-- Changes the permissions of a node, and of what is below a directory at most `n`
    levels further down if asked to. -/
def changeMode (a : Arguments) (change : ModeChange) : (n : Nat) → (isTop : Bool) → Raw →
    Procedure Nat
  | 0, _, _ => return 0
  | n + 1, isTop, file => do
    let failed (what : String) (fault : FileFault) : Procedure Nat := do
      if a.has 'f' then return 1
      refuseFile what file fault
    match ← locate file, ← find file with
    | .ok location, .ok node => do
      let old := (node.attributes?).getD (.usual 0o666)
      let isDirectory : Bool := node matches .directory _ _
      let mask := (← get).self.mask
      let permissions := change.mode.apply isDirectory mask old.permissions
      adornAt location fun a => { a with permissions }
      let subject := "mode of " ++ Quote.always file
      if permissions ≠ old.permissions then
        if a.has 'v' || a.has 'c' then
          write (subject ++ " changed from " ++ Mode.text old.permissions ++ " to "
            ++ Mode.text permissions ++ ['\n'])
      else if a.has 'v' then
        write (subject ++ " retained as " ++ Mode.text permissions ++ ['\n'])
      let naive := change.mode.apply isDirectory 0 old.permissions
      let isSurprise := change.isOptional && permissions &&& (Mode.allBits ^^^ naive) ≠ 0
      if isSurprise && !a.has 'f' then
        tell (Quote.asNeeded file ++ ": new permissions are ".toList ++ Mode.letters permissions
          ++ ", not " ++ Mode.letters naive)
      let status := if isSurprise then 1 else 0
      match node with
      | .directory _ entries => do
        if !a.has 'R' then return status
        if !permissions.testBit 8 then return (← failed "cannot read directory" .denied)
        let below ← forEach (entries.map fun entry => within file (Raw.ofText entry.1)) fun r => do
          match ← findName r with
          | .ok (.link _) => return 0
          | _ => changeMode a change n false r
        return if status = 0 then below else status
      | _ => return status
    | _, .error fault | .error fault, _ =>
      if isTop && (← findName file) matches .ok (.link _) then
        if a.has 'f' then return 1
        tell ("cannot operate on dangling symlink " ++ Quote.always file)
        return 1
      failed "cannot access" fault

/-- Changes permissions. -/
def chmod (arguments : List Raw) : Procedure Nat := do
  let isModeLetter (c : Char) : Bool := "rwxXstugoa,+=01234567".toList.contains c
  let a ← readArguments chmodOptions arguments
  let before := arguments.takeWhile (· ≠ ['-', '-'])
  let written := before.filter fun r =>
    r.head? = some '-' && r.tail.head? ≠ some '-' && r.tail.any isModeLetter
  let optional := if a.given.any fun (c, _) => isModeLetter c then some (joined written)
    else none
  match optional, a.value? 'F', a.operands with
  | some _, some _, _ => refuseUse 1 "cannot combine mode and --reference options"
  | none, none, [r] => refuseUse 1 ("missing operand after " ++ Quote.curly r)
  | _, _, [] => refuseUse 1 "missing operand"
  | none, some model, files => do
    match ← find model with
    | .ok node =>
      let permissions := ((node.attributes?).getD (.usual 0o666)).permissions
      let change : ModeChange := { mode := Mode.fixed permissions, isOptional := false }
      forEach files (changeMode a change 4096 true)
    | .error fault => refuseFile "failed to get attributes of" model fault
  | some r, none, files => change a r true files
  | none, none, r :: files => change a r false files
where
  /-- Texts with commas between them. -/
  joined (texts : List Raw) : Raw := [','].intercalate texts
  /-- Changes permissions as a text says. -/
  change (a : Arguments) (r : Raw) (isOptional : Bool) (files : List Raw) : Procedure Nat := do
    match Mode.ofRaw? r with
    | none => refuseUse 1 ("invalid mode: " ++ Quote.curly r)
    | some mode => forEach files (changeMode a { mode, isOptional } 4096 true)

/-! ## Directories -/

/-- The options of `mkdir`. -/
def mkdirOptions : OptionTable where
  letters := "m:pvZ"
  names := [("context?", 'Z'), ("mode=", 'm'), ("parents", 'p'), ("verbose", 'v')]

/-- The paths that lead step by step to a path. -/
def stepsTo (r : Raw) : List Raw :=
  let start : Raw := if r.head? = some '/' then ['/'] else []
  let names := (r.splitOn '/').filter (!·.isEmpty)
  let (_, steps) := names.foldl (fun (above, steps) name =>
    let next := if above.isEmpty || above = ['/'] then above ++ name else above ++ '/' :: name
    (next, steps ++ [next])) (start, ([] : List Raw))
  steps

/-- Makes a directory with some of the permissions that new files get. -/
def makeDirectoryWith (permissions : Nat) (isLoud : Bool) (shown r : Raw) :
    Procedure (Except FileFault Unit) := do
  match ← locateName r with
  | .error fault => return .error fault
  | .ok location => do
    if ((← get).machine.tree.get? location).isSome then return .error .alreadyExists
    match ← create location (.directory (← freshAttributes permissions) []) with
    | .error fault => return .error fault
    | .ok () => do
      if isLoud then write ((← get).name ++ ": created directory " ++ Quote.always shown ++ ['\n'])
      return .ok ()

/-- Makes a directory. -/
def makeDirectory (isLoud : Bool) (shown r : Raw) : Procedure (Except FileFault Unit) :=
  makeDirectoryWith 0o777 isLoud shown r

/-- Complains about a directory that cannot be made. -/
def refuseDirectory (r : Raw) (fault : FileFault) : Procedure Nat := do
  tell ("cannot create directory " ++ Quote.curly r ++ ": " ++ faultText fault)
  return 1

/-- Makes directories step by step. The last one `isMade` if it was not there. -/
def makeSteps (isLoud : Bool) (isMade : Raw → Procedure Unit) : List Raw → Procedure Nat
  | [] => return 0
  | r :: rest => do
    let isThere ← do pure ((← find r) matches .ok (.directory _ _))
    if isThere then makeSteps isLoud isMade rest
    else
      match ← makeDirectory isLoud r r with
      | .ok () => do
        match rest, ← locateName r with
        | _ :: _, .ok location =>
          adornAt location fun a => { a with permissions := a.permissions ||| 0o300 }
        | _, _ => isMade r
        makeSteps isLoud isMade rest
      | .error fault =>
        let fault := if fault = .alreadyExists && !rest.isEmpty then .notDirectory else fault
        refuseDirectory r fault

/-- Makes directories. -/
def mkdir (arguments : List Raw) : Procedure Nat := do
  let a ← readArguments mkdirOptions arguments
  if a.operands.isEmpty then refuseUse 1 "missing operand"
  let mode ← match a.value? 'm' with
    | some r =>
      match Mode.ofRaw? r with
      | some mode => pure (some mode)
      | none => refuse 1 ("invalid mode " ++ Quote.curly r)
    | none => pure none
  let mask := (← get).self.mask
  let settle (r : Raw) : Procedure Unit := do
    match mode, ← locateName r with
    | some mode, .ok location =>
      adornAt location fun a => { a with permissions := mode.apply true mask 0o777 }
    | _, _ => return ()
  forEach a.operands fun r => do
    if a.has 'p' && !r.isEmpty then makeSteps (a.has 'v') settle (stepsTo r)
    else match ← makeDirectory (a.has 'v') r (withoutSlashes r) with
      | .ok () => do
        settle (withoutSlashes r)
        return 0
      | .error fault => refuseDirectory r fault

/-- The options of `mkfifo`. -/
def mkfifoOptions : OptionTable where
  letters := "m:Z"
  names := [("context?", 'Z'), ("mode=", 'm')]

/-- Makes pipes with names. -/
def mkfifo (arguments : List Raw) : Procedure Nat := do
  let a ← readArguments mkfifoOptions arguments
  if a.operands.isEmpty then refuseUse 1 "missing operand"
  match a.value? 'm' with
  | some r => if (Mode.ofRaw? r).isNone then refuse 1 "invalid mode"
  | none => pure ()
  forEach a.operands fun r => do
    let failed (fault : FileFault) : Procedure Nat := refuseFile "cannot create fifo" r fault
    match ← locateName r with
    | .error fault => failed fault
    | .ok location => do
      let m := (← get).machine
      if (m.tree.get? location).isSome then return (← failed .alreadyExists)
      let number := m.named.foldl (fun n (k, _) => max n (k + 1)) m.tree.nextKinship
      match ← create location (.pipe number) with
      | .ok () => return 0
      | .error fault => failed fault

/-! ## Files -/

/-- The options of `touch`. -/
def touchOptions : OptionTable where
  letters := "acd:fhmr:t:"
  names := [("time=", 'T'), ("no-create", 'c'), ("date=", 'd'), ("reference=", 'r'),
    ("no-dereference", 'h')]

/-- The time that options of `touch` say. -/
def touchTime (a : Arguments) : Procedure Int := do
  let now ← presentMoment
  let stamped ← match a.value? 't' with
    | some r =>
      match Moment.ofStamp? now r with
      | some m => pure (some m.total)
      | none => refuse 1 ("invalid date format " ++ Quote.curly r)
    | none => pure none
  let model ← match a.value? 'r' with
    | some r =>
      match ← (if a.has 'h' then findName r else find r) with
      | .ok node => pure ((node.attributes?).map (·.time))
      | .error fault =>
        refuse 1 ("failed to get attributes of " ++ Quote.always r ++ ": " ++ faultText fault)
    | none => pure none
  if stamped.isSome && (a.has 'r' || a.has 'd') then
    refuseUse 1 "cannot specify times from more than one source"
  match a.value? 'd' with
  | some r =>
    let start := match model with
      | some time => Moment.ofNanoseconds time
      | none => now
    match Moment.ofRaw? start r with
    | some m => return m.total
    | none => refuse 1 ("invalid date format " ++ Quote.curly r)
  | none => return (stamped.orElse fun _ => model).getD now.total

/-- Changes the times of files, and creates those that are not there. -/
def touch (arguments : List Raw) : Procedure Nat := do
  let a ← readArguments touchOptions arguments
  let time ← touchTime a
  let isForAccess : Bool := a.has 'a' || (a.value? 'T').any fun r => r.head? = some 'a' || r.head? = some 'u'
  let isForChange : Bool := a.has 'm' || (a.value? 'T').any (·.head? = some 'm')
  let isMeant := isForChange || !isForAccess
  if a.operands.isEmpty then refuseUse 1 "missing file operand"
  forEach a.operands fun r => do
    if r = ['-'] then return 0
    let settle : Procedure Unit := do
      match ← locate r with
      | .ok location => if isMeant then adornAt location fun a => { a with time }
      | .error _ => return ()
    match ← find r with
    | .ok _ => do
      settle
      return 0
    | .error .notFound => do
      if a.has 'c' || a.has 'h' then return 0
      match ← writeFile r [] with
      | .ok () => do
        settle
        return 0
      | .error fault => refuseFile "cannot touch" r fault
    | .error fault => refuseFile "cannot touch" r fault

/-- The options of `truncate`. -/
def truncateOptions : OptionTable where
  letters := "cor:s:"
  names := [("no-create", 'c'), ("io-blocks", 'o'), ("reference=", 'r'), ("size=", 's')]

/-- The size that a text asks for, given the one there is. -/
def newSize? (r : Raw) : Option (Nat → Nat) :=
  match r with
  | '+' :: n => (amount? n).map fun n old => old + n
  | '-' :: n => (amount? n).map fun n old => old - n
  | '<' :: n => (amount? n).map fun n old => min old n
  | '>' :: n => (amount? n).map fun n old => max old n
  | '/' :: n => (amount? n).map fun n old => old / n * n
  | '%' :: n => (amount? n).map fun n old => (old + n - 1) / n * n
  | n => (amount? n).map fun n _ => n

/-- Changes the sizes of files. -/
def truncate (arguments : List Raw) : Procedure Nat := do
  let a ← readArguments truncateOptions arguments
  let size ← match a.value? 's', a.value? 'r' with
    | some r, _ =>
      match newSize? r with
      | some size => pure size
      | none => refuse 1 ("Invalid number: " ++ Quote.curly r)
    | none, some model =>
      match ← find model with
      | .ok node => pure fun _ => match node with
        | .file f => f.content.size
        | _ => 0
      | .error fault => refuse 1 ("cannot stat " ++ Quote.always model ++ ": " ++ faultText fault)
    | none, none =>
      refuseUse 1 ("you must specify either " ++ Quote.curly "--size" ++ " or "
        ++ Quote.curly "--reference")
  if a.operands.isEmpty then refuseUse 1 "missing file operand"
  forEach a.operands fun r => do
    if a.has 'c' && (← find r) matches .error .notFound then return 0
    let resized ← withOpen .append r fun i => do
      let s ← get
      match s.machine.channel i with
      | .file place _ _ =>
        match s.machine.fileAt? place with
        | some f =>
          let n := size f.content.size
          let gap : ByteArray := ⟨(List.replicate (n - f.content.size) (0 : UInt8)).toArray⟩
          onMachine fun m => m.reviseAt place (m.rewritten f (f.content.extract 0 n ++ gap))
        | none => return ()
      | _ => return ()
    match resized with
    | .ok () => return 0
    | .error fault => do
      tell ("cannot open " ++ Quote.always r ++ " for writing: " ++ faultText fault)
      return 1

/-- The options of `mktemp`. -/
def mktempOptions : OptionTable where
  letters := "dp:qtuV"
  names := [("directory", 'd'), ("quiet", 'q'), ("dry-run", 'u'), ("suffix=", 'S'), ("tmpdir?", 'T')]

/-- The letters that make the name of a temporary file different from others. -/
def freshLetters (number size : Nat) : Raw :=
  let digits := Raw.ofNat number
  ((List.replicate (size - digits.length) 'a') ++ digits).take size

/-- A name that nothing has, in at most `n` tries. -/
def freshName (tree : FileTree) (base : Location) (start finish : Raw) (size : Nat) :
    (n : Nat) → (number : Nat) → Raw
  | 0, number => start ++ freshLetters number size ++ finish
  | n + 1, number =>
    let name := start ++ freshLetters number size ++ finish
    match tree.findName base (pathOf name) with
    | .ok _ => freshName tree base start finish size n (number + 1)
    | .error _ => name

/-- Makes a temporary file or directory. -/
def mktemp (arguments : List Raw) : Procedure Nat := do
  let a ← readArguments mktempOptions arguments
  if 1 < a.operands.length then refuseUse 1 "too many templates"
  let usual := match ← valueOf? "TMPDIR" with
    | some (c :: r) => c :: r
    | _ => "/tmp"
  let template := a.operands.headD "tmp.XXXXXXXXXX"
  let above : Option Raw := match a.value? 'p', a.value? 'T' with
    | some r, _ => some r
    | none, some r => some (if r.isEmpty then usual else r)
    | none, none => if a.operands.isEmpty || a.has 't' then some usual else none
  let (template, suffix) := match a.value? 'S' with
    | some suffix => (template, suffix)
    | none =>
      let finish := (template.reverse.takeWhile (· ≠ 'X')).reverse
      if finish.length = template.length then (template, []) else
        (template.take (template.length - finish.length), finish)
  let size := (template.reverse.takeWhile (· = 'X')).length
  if size < 3 then refuse 1 ("too few X's in template " ++ Quote.curly (template ++ suffix))
  let start := template.take (template.length - size)
  let start := match above with
    | some r => within r start
    | none => start
  let s ← get
  let name := freshName s.machine.tree s.directory start suffix size 1000 s.process
  if a.has 'u' then
    write (name ++ ['\n'])
    return 0
  let made ← if a.has 'd' then makeDirectoryWith 0o700 false name name else writeFile name []
  match made with
  | .ok () => do
    match ← locateName name with
    | .ok location => if !a.has 'd' then adornAt location fun a => { a with permissions := 0o600 }
    | .error _ => pure ()
    write (name ++ ['\n'])
    return 0
  | .error fault => do
    if !a.has 'q' then
      let what : Raw := if a.has 'd' then "directory" else "file"
      let shown := start ++ List.replicate size 'X' ++ suffix
      tell ("failed to create " ++ what ++ " via template " ++ Quote.curly shown ++ ": "
        ++ faultText fault)
    return 1

/-! ## Backups -/

/-- The greatest number of a backup of a name among other names. -/
def lastBackup (name : Raw) (others : List Raw) : Nat :=
  let start := name ++ ".~".toList
  others.foldl (fun n other =>
    if start.isPrefixOf other && other.getLast? = some '~' then
      max n ((Raw.toNat? ((other.drop start.length).dropLast)).getD 0)
    else n) 0

/-- The name that a file with a name is kept under, among other names. -/
def backupName (a : Arguments) (control : Option Raw) (name : Raw) (others : List Raw) : Raw :=
  let manner := match a.value? 'B', control with
    | some (c :: r), _ => c :: r
    | _, some r => r
    | _, none => "existing"
  let suffix := (a.value? 'S').getD ['~']
  let last := lastBackup name others
  let numbered := name ++ ".~" ++ Raw.ofNat (last + 1) ++ ['~']
  match String.ofList manner with
  | "t" | "numbered" => numbered
  | "nil" | "existing" => if 0 < last then numbered else name ++ suffix
  | _ => name ++ suffix

/-- Keeps what is at a location under another name. The answer is the path of that,
    for a path that leads to the location. -/
def backUp (a : Arguments) (place : Location) (shown : Raw) : Procedure Raw := do
  let m := (← get).machine
  let others : List Raw := match m.tree.get? place.dropLast with
    | some (.directory _ entries) => entries.map fun entry => Raw.ofText entry.1
    | _ => []
  let name := backupName a (← valueOf? "VERSION_CONTROL") (Raw.ofText (place.getLast?.getD "")) others
  let target := place.dropLast ++ [name.toText]
  onMachine (·.moveOver place target)
  let start := shown.reverse.dropWhile (· ≠ '/')
  return start.reverse ++ name

/-- What is said about a backup. -/
def backupNote (backup : Raw) : Raw :=
  if backup.isEmpty then [] else " (backup: " ++ Quote.always backup ++ [')']

/-! ## Links -/

/-- The options of `ln`. -/
def lnOptions : OptionTable where
  letters := "bdfinrsS:t:vFLPT"
  names := [("backup?", 'B'), ("directory", 'd'), ("no-dereference", 'n'),
    ("no-target-directory", 'T'), ("force", 'f'), ("interactive", 'i'), ("suffix=", 'S'),
    ("target-directory=", 't'), ("logical", 'L'), ("physical", 'P'), ("relative", 'r'),
    ("symbolic", 's'), ("verbose", 'v')]

/-- Puts a second name of a file at a location. -/
def putKin (source target : Location) (tree : FileTree) : FileTree :=
  match tree.get? source with
  | some (.file f) =>
    match f.kinship with
    | some _ => tree.set target (.file f)
    | none =>
      let kin := { f with kinship := some tree.nextKinship }
      (tree.set source (.file kin)).set target (.file kin)
  | some node => tree.set target node
  | none => tree

/-- Makes one link. -/
def makeLink (a : Arguments) (source target : Raw) : Procedure Nat := do
  let isSymbolic := a.has 's'
  let what : Raw := if isSymbolic then "symbolic link" else "hard link"
  let failed (fault : FileFault) : Procedure Nat := do
    let r : Raw := if isSymbolic then (if source.isEmpty then " -> ''" else [])
      else if fault = .alreadyExists then [] else " => " ++ Quote.always source
    tell ("failed to create " ++ what ++ ' ' :: Quote.always target ++ r ++ ": " ++ faultText fault)
    return 1
  let origin ← locateName source
  if !isSymbolic then
    match ← findName source with
    | .error fault => return (← refuseFile "failed to access" source fault)
    | .ok (.directory _ _) => do
      tell (Quote.asNeeded source ++ ": hard link not allowed for directory".toList)
      return 1
    | .ok _ => pure ()
  match ← locateName target with
  | .error fault => failed fault
  | .ok place => do
    let there := (← get).machine.tree.get? place
    if !(← get).machine.tree.isOpenAbove place then
      return (← failed (if there.isSome && !a.has 'f' then .alreadyExists else .denied))
    let mut backup : Raw := []
    match there with
    | some (.directory _ _) => do
      if a.has 'f' || a.has 'i' || a.has 'b' || a.has 'B' then
        tell (Quote.asNeeded target ++ ": cannot overwrite directory".toList)
        return 1
      return (← failed .alreadyExists)
    | some _ =>
      let isBackedUp := a.has 'b' || a.has 'B'
      if !(a.has 'f' || a.has 'i' || isBackedUp) then return (← failed .alreadyExists)
      if !isSymbolic && origin.toOption = some place then
        tell (Quote.always source ++ " and " ++ Quote.always target ++ " are the same file".toList)
        return 1
      if a.lastOf? "fi" = some 'i' then
        if !(← askWhether ("replace " ++ Quote.always target)) then return 1
      if isBackedUp then backup ← backUp a place target else onMachine (·.remove place)
    | none => pure ()
    let tellLink (sign : String) (text : Raw) : Procedure Unit := do
      if a.has 'v' then
        write (Quote.always target ++ sign.toList ++ Quote.always text ++ backupNote backup ++ ['\n'])
    if isSymbolic then
      if source.isEmpty then return (← failed .notFound)
      let s ← get
      let text := if a.has 'r' then
          match locateAnyway s.machine.tree s.directory (pathOf source) with
          | .ok location => relativeText place.dropLast location
          | .error _ => source
        else source
      onMachine (·.put place (.link (pathOf text)))
      tellLink " -> " text
    else
      match origin with
      | .ok origin =>
        onMachine fun m => { m with tree := putKin origin place m.tree }.stirred place
      | .error _ => pure ()
      tellLink " => " source
    return 0

/-- The operands of a utility that puts files somewhere: the files, and the
    directory or the name that they go to. A directory is marked. What cannot be
    reached is complained about. -/
def destinationOf (a : Arguments) (unreachable : String) (isFlat : Bool) :
    Procedure (List Raw × Raw × Bool) := do
  match a.value? 't' with
  | some directory =>
    if a.operands.isEmpty then refuseUse 1 "missing file operand"
    match ← find directory with
    | .ok (.directory _ _) => return (a.operands, directory, true)
    | .ok _ => refuse 1 ("target directory " ++ Quote.always directory ++ ": Not a directory".toList)
    | .error fault =>
      refuse 1 ("target directory " ++ Quote.always directory ++ ": " ++ faultText fault)
  | none =>
    match a.operands.reverse with
    | [] => refuseUse 1 "missing file operand"
    | [r] => refuseUse 1 ("missing destination file operand after " ++ Quote.always r)
    | target :: others => do
      if a.has 'T' then
        match others with
        | [source] => return ([source], target, false)
        | _ => refuseUse 1 ("extra operand " ++ Quote.always ((a.operands[2]?).getD []))
      let isLink : Bool := match ← findName target with
        | .ok (.link _) => true
        | _ => false
      match ← find target with
      | .ok (.directory _ _) =>
        return (others.reverse, target, !(isFlat && isLink))
      | .ok _ =>
        if 1 < others.length then refuse 1 ("target " ++ Quote.always target ++ ": Not a directory".toList)
        return (others.reverse, target, false)
      | .error fault =>
        if 1 < others.length then
          refuse 1 ("target " ++ Quote.always target ++ ": " ++ faultText fault)
        let isStrange : Bool := fault ≠ .notFound && fault ≠ .badName
        if isStrange then
          refuse 1 (unreachable.toList ++ ' ' :: Quote.always target ++ ": " ++ faultText fault)
        return (others.reverse, target, false)

/-- Makes links. -/
def ln (arguments : List Raw) : Procedure Nat := do
  let a ← readArguments lnOptions arguments
  match a.operands, a.value? 't' with
  | [], _ => refuseUse 1 "missing file operand"
  | [source], none => makeLink a source (within ['.'] (lastName source))
  | _, _ => do
    let (sources, target, isBelow) ← destinationOf a "failed to access" (a.has 'n')
    forEach sources fun source =>
      makeLink a source (if isBelow then within target (lastName source) else target)

/-- Gives a file one more name. -/
def link (arguments : List Raw) : Procedure Nat := do
  let a ← readArguments bareOptions arguments
  match a.operands with
  | [] => refuseUse 1 "missing operand"
  | [r] => refuseUse 1 ("missing operand after " ++ Quote.curly r)
  | source :: target :: _ => do
    refuseExtra 1 2 a
    let failed (text : Raw) : Procedure Nat := do
      tell ("cannot create link ".toList ++ Quote.always target ++ " to ".toList ++ Quote.always source
        ++ ": ".toList ++ text)
      return 1
    match ← locateName source, ← findName source, ← locateName target with
    | .error fault, _, _ | _, .error fault, _ | _, _, .error fault => failed (faultText fault)
    | .ok origin, .ok node, .ok place => do
      let tree := (← get).machine.tree
      if (tree.get? place).isSome then failed (faultText .alreadyExists)
      else if node matches .directory _ _ then failed "Operation not permitted".toList
      else if !tree.isOpenAbove place then failed (faultText .denied)
      else do
        onMachine fun m => { m with tree := putKin origin place m.tree }.stirred place
        return 0

end Utility

end MapAudit.Script
