import MapAudit.Config.Basic
import MapAudit.Files.Access
import MapAudit.Json.Parser
import MapAudit.Script.Launch

/-! # Settings

    A setting is what the program finds when it starts: its environment and the
    files that there are. It is described by a JSON object, all of whose members
    may be left out:

    * `directory`: the working directory,
    * `path`: the list of directories that programs are looked for in,
    * `variables`: an object with the values of variables,
    * `files`: an object whose keys are absolute paths. A value is the text of a
      file, an array with one text for an executable file, or null for a
      directory.
-/

namespace MapAudit.CommandLine

/-- **Setting** of a program. -/
structure Setting where
  /-- The environment. -/
  environment : Environment
  /-- The files. -/
  tree : FileTree

namespace Setting

/-- The member of an object with a key. -/
def member? (key : String) : Json → Option Json
  | .object members => members.lookup key
  | _ => none

/-- The text that a value is. -/
def text? : Json → Option String
  | .string s => some s
  | _ => none

/-- The texts that a value is a list of. -/
def texts? : Json → Option (List String)
  | .array items => items.mapM text?
  | _ => none

/-- The members of an object that are read as something. -/
def members? {α : Type} (read? : Json → Option α) : Json → Option (List (String × α))
  | .object members => members.mapM fun (key, v) => (read? v).map fun a => (key, a)
  | _ => none

/-- The node that a value describes. -/
def node? : Json → Option FileTree
  | .null => some .empty
  | .string s => some (.ofBytes s.toUTF8 false)
  | .array [.string s] => some (.ofBytes s.toUTF8 true)
  | _ => none

/-- The tree of the machine with nodes at paths, put there one after another. -/
def treeOf (nodes : List (String × FileTree)) : FileTree :=
  nodes.foldl (fun tree (p, node) => match node with
    | .directory _ _ => (tree.createAll [] (.ofString p)).2
    | node => tree.plant [] (.ofString p) node) Script.Installation.tree

/-- Reads a member of an object, or takes a value where there is no such member. -/
def memberOr {α : Type} (key : String) (read? : Json → Option α) (otherwise : α) (v : Json) :
    Option α :=
  match member? key v with
  | none => some otherwise
  | some m => read? m

/-- **Setting** that a value describes. -/
def ofJson? (v : Json) : Option Setting := do
  let directory ← memberOr "directory" text? "/" v
  let searchPath ← memberOr "path" texts? [] v
  let values ← memberOr "variables" (members? text?) [] v
  let nodes ← memberOr "files" (members? node?) [] v
  return {
    environment := {
      workingDirectory := .ofString directory
      searchPath := searchPath.map .ofString
      values }
    tree := (treeOf nodes).createAll [] (.ofString directory) |>.2 }

/-- The setting that a text describes. An empty text describes one without any
    files. -/
def read? (text : String) : Option Setting :=
  if text.isEmpty then ofJson? (.object []) else Json.parse? text.toList >>= ofJson?

/-- Where relative paths start from in a setting. -/
def base (s : Setting) : Location :=
  match s.tree.locate [] s.environment.workingDirectory with
  | .ok location => location
  | .error _ => []

end Setting

end MapAudit.CommandLine
