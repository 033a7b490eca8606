import MapAudit.Files.Access
import MapAudit.Script.Command

/-! # Programs

    A program is a file that may be executed. It is one of those that come with
    the machine, a utility or a shell, or else it is a script: then its first line
    names the program that runs it. A file that is neither has no form that could
    be executed.

    An image is what an executed file comes to: a program that comes with the
    machine, and the arguments it gets.
-/

namespace MapAudit.Script

/-- What can be executed in the end. -/
inductive Engagement where
  /-- A shell. -/
  | shell (d : Dialect)
  /-- A utility with a name. -/
  | utility (name : Raw)
  deriving DecidableEq, Repr

/-- **Image** of a program. -/
structure Image where
  /-- What is executed. -/
  engagement : Engagement
  /-- The name that it is called by. -/
  name : Raw
  /-- Its arguments. -/
  arguments : List Raw
  deriving DecidableEq, Repr

/-- Why a file cannot be executed. -/
inductive LaunchFault where
  /-- It cannot be reached. -/
  | unreachable (fault : FileFault)
  /-- It is a directory. -/
  | isDirectory
  /-- It may not be executed. -/
  | denied
  /-- It has no form that could be executed. The content may be that of a script. -/
  | formless (content : Raw)
  /-- The program that is to run it cannot be reached. -/
  | uninterpreted (interpreter : Raw) (fault : FileFault)
  /-- The program that is to run it may not be executed. -/
  | forbidden (interpreter : Raw)
  deriving DecidableEq, Repr

/-- What the files of programs that come with the machine begin with. -/
def Image.mark : Raw :=
  ['\x7f', 'E', 'L', 'F']

/-- The shells by their names. -/
def shellNames : List (String × Dialect) :=
  [("sh", .sh), ("dash", .sh), ("bash", .bash), ("rbash", .bash)]

/-- What the program with a name is that comes with the machine. -/
def Engagement.named (name : Raw) : Engagement :=
  match shellNames.lookup (String.ofList name) with
  | some d => .shell d
  | none => .utility name

/-- The interpreter that the first line of a script names, and the one argument
    that it may have. -/
def interpreterOf (script : Raw) : Option (Raw × Option Raw) :=
  let isBlank (c : Char) : Bool := c = ' ' || c = '\t'
  let line := (script.take 255).takeWhile (· ≠ '\n')
  let line := line.takeWhile (· ≠ '\x00')
  let line := ((line.drop 2).dropWhile isBlank).reverse.dropWhile isBlank |>.reverse
  let interpreter := line.takeWhile (!isBlank ·)
  if interpreter.isEmpty then none
  else match (line.drop interpreter.length).dropWhile isBlank with
    | [] => some (interpreter, none)
    | argument => some (interpreter, some argument)

/-- The content of a file that is to be executed. -/
def executable (tree : FileTree) (base : Location) (file : Raw) : Except LaunchFault Raw :=
  match tree.find base (.ofString file.toText) with
  | .error fault => .error (.unreachable fault)
  | .ok (.directory _ _) => .error .isDirectory
  | .ok (.file f) =>
    if f.attributes.isPassable then .ok (Raw.ofBytes f.content) else .error .denied
  | .ok (.link _) => .error (.unreachable .tooManyLinks)
  | .ok (.pipe _) | .ok (.device _) => .error .denied

/-- The image of a file. It may be a script that is run by a script, and so on
    `n` times. -/
def imageUpTo (tree : FileTree) (base : Location) : (n : Nat) → (name file : Raw) →
    (arguments : List Raw) → Except LaunchFault Image
  | n, name, file, arguments => do
    let content ← executable tree base file
    if Image.mark.isPrefixOf content then
      return { engagement := .named (content.drop Image.mark.length), name, arguments }
    match content with
    | '#' :: '!' :: _ =>
      match n, interpreterOf content with
      | 0, _ => throw (.unreachable .tooManyLinks)
      | _, none => throw (.formless content)
      | n + 1, some (interpreter, argument) =>
        match imageUpTo tree base n interpreter interpreter
          (argument.toList ++ file :: arguments) with
        | .error (.unreachable fault) => throw (.uninterpreted interpreter fault)
        | .error .isDirectory | .error .denied => throw (.forbidden interpreter)
        | answer => answer
    | content => throw (.formless content)

/-- **Image** of a file that is called by a name. -/
def imageOf (tree : FileTree) (base : Location) (name file : Raw) (arguments : List Raw) :
    Except LaunchFault Image :=
  imageUpTo tree base 5 name file arguments

end MapAudit.Script
