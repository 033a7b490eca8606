import MapAudit.Files.Path
import MapAudit.Files.Tree

/-! # Access to files by path

    Programs reach the nodes of a file tree by paths. A path is followed segment
    by segment, and every segment, even an idle one, needs a directory to be
    followed from; only the node that the last segment leads to may be missing.
    Relative paths are followed from a base location. A symbolic link on the way
    is followed in its turn, and one at the end too, unless it is meant itself.

    Who makes an access owns all nodes, and may do with them what their attributes
    say: to go through a directory, to change what is in it, to read and write a
    file.

    An access that fails says why. It may still have changed the tree: making a
    directory with all directories above it keeps those that could be made.
-/

namespace MapAudit

/-- Why an access failed. -/
inductive FileFault where
  /-- There is nothing at the path or on the way to it. -/
  | notFound
  /-- There is something else where a directory is needed. -/
  | notDirectory
  /-- There is a directory where a file is needed. -/
  | isDirectory
  /-- There is something where nothing should be. -/
  | alreadyExists
  /-- The path has a NUL character, which no name has. -/
  | badName
  /-- The path or a name in it is too long. -/
  | nameTooLong
  /-- The path leads through too many symbolic links. -/
  | tooManyLinks
  /-- The content of the file is no text. -/
  | notText
  /-- The attributes of a node do not allow it. -/
  | denied
  /-- The device is not there. -/
  | noDevice
  /-- There is no stream that leads to it. -/
  | noStream
  /-- There is more than there is room for. -/
  | noRoom
  deriving DecidableEq, Repr

namespace FileTree

/-- How many bytes a name may have. -/
def maxNameSize : Nat := 255

/-- How many bytes a path may have. -/
def maxPathSize : Nat := 4095

/-- How many symbolic links a path may lead through. -/
def maxLinks : Nat := 40

/-- Follows segments from a location up to a symbolic link, where `atLink` takes
    over with the directory, the target and the segments that are left. A link
    at the end is itself meant unless `followLast` says otherwise. -/
def walk (tree : FileTree) (followLast : Bool)
    (atLink : Location → Path → List String → Except FileFault Location) :
    Location → List String → Except FileFault Location
  | here, [] => .ok here
  | here, segment :: rest =>
    match tree.get? here with
    | none => .error .notFound
    | some (.directory a _) =>
      if !a.isPassable then .error .denied
      else if Path.isIdle segment then walk tree followLast atLink here rest
      else if segment = ".." then walk tree followLast atLink here.dropLast rest
      else if maxNameSize < segment.utf8ByteSize then .error .nameTooLong
      else
        match tree.get? (here ++ [segment]) with
        | some (.link target) =>
          if rest.isEmpty && !followLast then .ok (here ++ [segment])
          else atLink here target rest
        | _ => walk tree followLast atLink (here ++ [segment]) rest
    | some _ => .error .notDirectory

/-- Follows segments from a location through at most `links` symbolic links. -/
def follow (tree : FileTree) (followLast : Bool) :
    (links : Nat) → Location → List String → Except FileFault Location
  | 0 => walk tree followLast fun _ _ _ => .error .tooManyLinks
  | links + 1 => walk tree followLast fun here target rest =>
    if target.isAbsolute then follow tree followLast links [] (target.segments.tail ++ rest)
    else follow tree followLast links here (target.segments ++ rest)

/-- Where a path leads to when followed from a base. -/
def locateWith (tree : FileTree) (followLast : Bool) (base : Location) (p : Path) :
    Except FileFault Location :=
  if p.segments.any (·.toList.contains '\x00') then .error .badName
  else if p = .empty then .error .notFound
  else if maxPathSize < p.text.utf8ByteSize then .error .nameTooLong
  else if p.isAbsolute then tree.follow followLast maxLinks [] p.segments.tail
  else tree.follow followLast maxLinks base p.segments

/-- **Locating** what a path leads to. -/
def locate (tree : FileTree) (base : Location) (p : Path) : Except FileFault Location :=
  tree.locateWith true base p

/-- **Locating** the node that a path names, which may be a symbolic link. -/
def locateName (tree : FileTree) (base : Location) (p : Path) : Except FileFault Location :=
  tree.locateWith false base p

/-- The node that a path leads to. -/
def find (tree : FileTree) (base : Location) (p : Path) : Except FileFault FileTree := do
  match tree.get? (← tree.locate base p) with
  | none => .error .notFound
  | some node => .ok node

/-- The node that a path names. -/
def findName (tree : FileTree) (base : Location) (p : Path) : Except FileFault FileTree := do
  match tree.get? (← tree.locateName base p) with
  | none => .error .notFound
  | some node => .ok node

/-- Whether a path leads to anything. -/
def hasNode (tree : FileTree) (base : Location) (p : Path) : Bool :=
  match tree.find base p with
  | .ok _ => true
  | .error _ => false

/-- Whether a path leads to a file. -/
def hasFile (tree : FileTree) (base : Location) (p : Path) : Bool :=
  match tree.find base p with
  | .ok (.file _) => true
  | _ => false

/-- Whether a path leads to a directory. -/
def hasDirectory (tree : FileTree) (base : Location) (p : Path) : Bool :=
  match tree.find base p with
  | .ok (.directory _ _) => true
  | _ => false

/-- Whether a path leads to a file that may be executed. -/
def hasProgram (tree : FileTree) (base : Location) (p : Path) : Bool :=
  match tree.find base p with
  | .ok (.file f) => f.isExecutable
  | _ => false

/-- Whether nodes may be put into the directory that a location lies in, and taken
    from it. -/
def isOpenAbove (tree : FileTree) (location : Location) : Bool :=
  match tree.get? location.dropLast with
  | some (.directory a _) => a.isWritable && a.isPassable
  | _ => false

/-- Makes a directory in a directory that is there. -/
def makeDirectory (tree : FileTree) (base : Location) (p : Path) :
    Except FileFault FileTree := do
  let location ← tree.locateName base p.withoutLastSlashes
  match tree.get? location with
  | some _ => .error .alreadyExists
  | none => if tree.isOpenAbove location then .ok (tree.set location .empty) else .error .denied

/-- Makes a directory given with those above it, nearest first. Those above are
    made when one of them turns out to be missing. A directory that is there
    already will do. -/
def makeAlong (base : Location) : List Path → FileTree → Except FileFault Unit × FileTree
  | [], tree => (.error .notFound, tree)
  | p :: above, tree =>
    if p = .empty then (.ok (), tree)
    else
      match tree.makeDirectory base p with
      | .ok made => (.ok (), made)
      | .error .notFound =>
        match makeAlong base above tree with
        | (.error fault, partly) => (.error fault, partly)
        | (.ok (), ready) =>
          match ready.makeDirectory base p with
          | .ok made => (.ok (), made)
          | .error fault =>
            (if ready.hasDirectory base p then .ok () else .error fault, ready)
      | .error fault => (if tree.hasDirectory base p then .ok () else .error fault, tree)

/-- **Making a directory** together with all directories above it. -/
def createAll (tree : FileTree) (base : Location) (p : Path) :
    Except FileFault Unit × FileTree :=
  makeAlong base p.ancestors tree

mutual

/-- What stays of a node when it is removed with all that is in it, up to what may
    not be removed. -/
def remains : FileTree → Option FileTree
  | .directory a entries =>
    match (if a.isReadable then remainsOf a.isWritable entries else entries) with
    | [] => none
    | left => some (.directory a left)
  | .file _ | .link _ | .pipe _ | .device _ => none

/-- What stays of the entries of a directory that is `open` to changes. -/
def remainsOf (isOpen : Bool) : List (String × FileTree) → List (String × FileTree)
  | [] => []
  | entry :: rest =>
    match remainsIn isOpen entry with
    | some left => left :: rest
    | none => remainsOf isOpen rest

/-- What stays of an entry of such a directory. -/
def remainsIn (isOpen : Bool) : String × FileTree → Option (String × FileTree)
  | (name, node) =>
    match remains node with
    | some left => some (name, left)
    | none =>
      if isOpen then none
      else some (name, match node with
        | .directory a _ => .directory a []
        | node => node)

end

/-- **Removing a directory** with all that is in it. A symbolic link is removed
    itself. Files are not removed this way, and neither is the top of the tree. -/
def removeAll (tree : FileTree) (base : Location) (p : Path) :
    Except FileFault Unit × FileTree :=
  match tree.locateName base p with
  | .error fault => (.error fault, tree)
  | .ok location =>
    match tree.get? location with
    | none => (.error .notFound, tree)
    | some (.directory a entries) =>
      if location = [] then (.error .isDirectory, tree)
      else
        match remains (.directory a entries) with
        | some left => (.error .denied, tree.set location left)
        | none =>
          if tree.isOpenAbove location then (.ok (), tree.erase location)
          else (.error .denied, tree.set location (.directory a []))
    | some (.link _) =>
      if tree.isOpenAbove location then (.ok (), tree.erase location) else (.error .denied, tree)
    | some _ => (.error .notDirectory, tree)

/-- Writes a file at a location: a file that is there gets a new content and
    keeps its attributes; a new one is not executable. -/
def writeAt (tree : FileTree) (location : Location) (content : ByteArray) :
    Except FileFault Unit × FileTree :=
  match tree.get? location with
  | some (.file f) =>
    if f.attributes.isWritable then (.ok (), tree.revise location { f with content })
    else (.error .denied, tree)
  | some (.directory _ _) => (.error .isDirectory, tree)
  | some (.link _) => (.error .tooManyLinks, tree)
  | some (.pipe _) | some (.device _) => (.ok (), tree)
  | none =>
    if tree.isOpenAbove location then (.ok (), tree.set location (.ofBytes content false))
    else (.error .denied, tree)

/-- **Writing a file**. -/
def write (tree : FileTree) (base : Location) (p : Path) (content : ByteArray) :
    Except FileFault Unit × FileTree :=
  match tree.locate base p with
  | .error fault => (.error fault, tree)
  | .ok location => tree.writeAt location content

/-- Puts a node where a path leads to, with all directories above it. Where that
    cannot be, nothing is put. -/
def plant (tree : FileTree) (base : Location) (p : Path) (node : FileTree) : FileTree :=
  let ready := match p.parent? with
    | none => tree
    | some above => (tree.createAll base above).2
  match ready.locate base p with
  | .error _ => ready
  | .ok location => ready.set location node

/-- What a device gives to a reader, if that ever comes to an end. -/
def contentOfDevice : Device → Except FileFault ByteArray
  | .null | .stream _ => .ok .empty
  | .terminal => .error .noDevice
  | .zero | .full | .noise => .error .noRoom

/-- What a node gives to a reader. -/
def contentOf : FileTree → Except FileFault ByteArray
  | .file f => if f.attributes.isReadable then .ok f.content else .error .denied
  | .directory _ _ => .error .isDirectory
  | .link _ => .error .tooManyLinks
  | .pipe _ => .ok .empty
  | .device d => contentOfDevice d

/-- **Reading a file**. -/
def read (tree : FileTree) (base : Location) (p : Path) : Except FileFault ByteArray := do
  contentOf (← tree.find base p)

end FileTree

end MapAudit
