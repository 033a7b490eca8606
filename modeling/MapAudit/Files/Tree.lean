import MapAudit.Files.Path

/-! # File trees

    A node of a file tree is a file, a directory of named nodes, a symbolic link,
    a named pipe or a device. A location is the list of names that leads to a node
    from the top of the tree, without going through links; the empty location
    leads to the top itself.

    Files and directories say what their owner may do with them, and when they
    were changed last.

    `set` and `erase` change a tree at one location and nowhere else. They never
    make directories on the way: where there is none, they change nothing.
-/

namespace MapAudit

/-- **Location** in a file tree: the names on the way from the top. -/
abbrev Location := List String

/-- **Attributes** of a file or a directory. -/
structure Attributes where
  /-- What the owner, the group and others may do, in three bits each: read, write
      and execute. -/
  permissions : Nat
  /-- When it was changed last, in nanoseconds. -/
  time : Int
  deriving DecidableEq, Repr

namespace Attributes

/-- Whether the owner may read. -/
def isReadable (a : Attributes) : Bool :=
  a.permissions.testBit 8

/-- Whether the owner may write. -/
def isWritable (a : Attributes) : Bool :=
  a.permissions.testBit 7

/-- Whether the owner may execute a file, or go through a directory. -/
def isPassable (a : Attributes) : Bool :=
  a.permissions.testBit 6

/-- The time of what is there from the start. -/
def start : Int :=
  1750000000000000000

/-- The attributes of what is there from the start. -/
def usual (permissions : Nat) : Attributes where
  permissions
  time := start

end Attributes

/-- **File**. -/
structure File where
  /-- What the file holds. -/
  content : ByteArray
  /-- Its attributes. -/
  attributes : Attributes
  /-- The number that the names of the file have in common, if it has several.
      All of them lead to the same content. -/
  kinship : Option Nat

/-- Whether anybody may execute a file. -/
def File.isExecutable (f : File) : Bool :=
  f.attributes.permissions.testBit 6 || f.attributes.permissions.testBit 3
    || f.attributes.permissions.testBit 0

/-- **Device**. -/
inductive Device where
  /-- It takes everything and gives nothing. -/
  | null
  /-- It takes everything and gives zeros without an end. -/
  | zero
  /-- It takes nothing, as it has no room, and gives zeros. -/
  | full
  /-- It takes everything and gives bytes in disorder. -/
  | noise
  /-- It cannot be reached. -/
  | terminal
  /-- It is what the stream with a number leads to. -/
  | stream (n : Nat)
  deriving DecidableEq, Repr

/-- **File tree**, seen from its top node. -/
inductive FileTree where
  /-- A file. -/
  | file (f : File)
  /-- A directory with named nodes. -/
  | directory (a : Attributes) (entries : List (String × FileTree))
  /-- A symbolic link: it stands for what its target leads to from here. -/
  | link (target : Path)
  /-- A pipe with a name. Pipes are told apart by their numbers. -/
  | pipe (n : Nat)
  /-- A device. -/
  | device (d : Device)

namespace FileTree

/-- The tree of an empty directory. -/
def empty : FileTree :=
  .directory (.usual 0o755) []

/-- The node of a file with one name. -/
def ofBytes (content : ByteArray) (isExecutable : Bool) : FileTree :=
  .file { content, attributes := .usual (if isExecutable then 0o755 else 0o644), kinship := none }

/-- Puts a named node among others: in the place of the one with the same name,
    or at the end. -/
def putEntry (name : String) (node : FileTree) :
    List (String × FileTree) → List (String × FileTree)
  | [] => [(name, node)]
  | (key, old) :: rest =>
    if key = name then (name, node) :: rest else (key, old) :: putEntry name node rest

/-- The named nodes without those of one name. -/
def dropEntry (name : String) (entries : List (String × FileTree)) :
    List (String × FileTree) :=
  entries.filter (·.1 ≠ name)

/-- The node at a location. -/
def get? : FileTree → Location → Option FileTree
  | tree, [] => some tree
  | .directory _ entries, name :: rest =>
    match entries.lookup name with
    | none => none
    | some child => child.get? rest
  | .file _, _ :: _ => none
  | .link _, _ :: _ => none
  | .pipe _, _ :: _ => none
  | .device _, _ :: _ => none

/-- Puts a node at a location. -/
def set : FileTree → Location → FileTree → FileTree
  | _, [], node => node
  | .directory a entries, name :: rest, node =>
    match entries.lookup name with
    | some child => .directory a (putEntry name (child.set rest node) entries)
    | none =>
      if rest.isEmpty then .directory a (putEntry name node entries) else .directory a entries
  | .file f, _ :: _, _ => .file f
  | .link target, _ :: _, _ => .link target
  | .pipe n, _ :: _, _ => .pipe n
  | .device d, _ :: _, _ => .device d

/-- Takes the node at a location away. The top stays. -/
def erase : FileTree → Location → FileTree
  | tree, [] => tree
  | .directory a entries, name :: rest =>
    match entries.lookup name with
    | none => .directory a entries
    | some child =>
      if rest.isEmpty then .directory a (dropEntry name entries)
      else .directory a (putEntry name (child.erase rest) entries)
  | .file f, _ :: _ => .file f
  | .link target, _ :: _ => .link target
  | .pipe n, _ :: _ => .pipe n
  | .device d, _ :: _ => .device d

/-- Whether there is a directory at a location. -/
def isDirectoryAt (tree : FileTree) (location : Location) : Bool :=
  match tree.get? location with
  | some (.directory _ _) => true
  | _ => false

/-- The attributes of a file or a directory. -/
def attributes? : FileTree → Option Attributes
  | .file f => some f.attributes
  | .directory a _ => some a
  | .link _ | .pipe _ | .device _ => none

/-- Changes the attributes of a directory at a location. -/
def adorn (tree : FileTree) (location : Location) (f : Attributes → Attributes) : FileTree :=
  match tree.get? location with
  | some (.directory a entries) => tree.set location (.directory (f a) entries)
  | _ => tree

/-! ## Files with several names -/

mutual

/-- The tree in which all names with a number in common lead to a file. -/
def reviseKin (n : Nat) (f : File) : FileTree → FileTree
  | .file g => if g.kinship = some n then .file { f with kinship := some n } else .file g
  | .directory a entries => .directory a (reviseKinEntries n f entries)
  | .link target => .link target
  | .pipe p => .pipe p
  | .device d => .device d

/-- The entries of such a tree. -/
def reviseKinEntries (n : Nat) (f : File) : List (String × FileTree) → List (String × FileTree)
  | [] => []
  | entry :: rest => reviseKinEntry n f entry :: reviseKinEntries n f rest

/-- An entry of such a tree. -/
def reviseKinEntry (n : Nat) (f : File) : String × FileTree → String × FileTree
  | (name, node) => (name, reviseKin n f node)

end

mutual

/-- The least number above all those that names have in common, and above those of
    pipes. -/
def nextKinship : FileTree → Nat
  | .file f => match f.kinship with
    | some n => n + 1
    | none => 0
  | .directory _ entries => nextKinshipOf entries
  | .link _ => 0
  | .pipe n => n + 1
  | .device _ => 0

/-- The least number above all those in some entries. -/
def nextKinshipOf : List (String × FileTree) → Nat
  | [] => 0
  | entry :: rest => max (nextKinshipIn entry) (nextKinshipOf rest)

/-- The least number above all those in an entry. -/
def nextKinshipIn : String × FileTree → Nat
  | (_, node) => nextKinship node

end

/-- **Revision** of a file that is there: all its names lead to the new one. -/
def revise (tree : FileTree) (location : Location) (f : File) : FileTree :=
  match tree.get? location with
  | some (.file old) =>
    match old.kinship with
    | some n => tree.reviseKin n f
    | none => tree.set location (.file { f with kinship := none })
  | _ => tree

/-! ## Listing -/

mutual

/-- The nodes among named ones and below them, each by its way from `above`. -/
def listEntries (above : String) : List (String × FileTree) → List String
  | [] => []
  | entry :: rest => listEntry above entry ++ listEntries above rest

/-- A named node and the nodes below it. -/
def listEntry (above : String) : String × FileTree → List String
  | (name, .directory _ entries) =>
    (above ++ name ++ "/") :: listEntries (above ++ name ++ "/") entries
  | (name, .file _) => [above ++ name]
  | (name, .link _) => [above ++ name]
  | (name, .pipe _) => [above ++ name]
  | (name, .device _) => [above ++ name]

end

mutual

/-- A tree and all nodes below it with their locations. A directory comes before
    what is in it. -/
def nodes (here : Location) : FileTree → List (Location × FileTree)
  | .directory a entries => (here, .directory a entries) :: nodesOf here entries
  | .file f => [(here, .file f)]
  | .link target => [(here, .link target)]
  | .pipe n => [(here, .pipe n)]
  | .device d => [(here, .device d)]

/-- The nodes of some entries. -/
def nodesOf (above : Location) : List (String × FileTree) → List (Location × FileTree)
  | [] => []
  | entry :: rest => nodesIn above entry ++ nodesOf above rest

/-- The nodes of an entry. -/
def nodesIn (above : Location) : String × FileTree → List (Location × FileTree)
  | (name, node) => nodes (above ++ [name]) node

end

/-- The nodes below the top, each by its way from there. A directory is
    written with a slash at its end. -/
def list : FileTree → List String
  | .directory _ entries => listEntries "" entries
  | .file _ => []
  | .link _ => []
  | .pipe _ => []
  | .device _ => []

end FileTree

end MapAudit
