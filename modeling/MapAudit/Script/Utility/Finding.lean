import MapAudit.Script.Pattern
import MapAudit.Script.Regex.Reader
import MapAudit.Script.Regex.Search
import MapAudit.Script.Utility.Making
import MapAudit.Script.Utility.Running

/-! # Finding files

    `find` goes through directories with all that is in them. For every node it
    evaluates a condition, whose parts are tests and also deeds: a node is written,
    removed, or given to a program.
-/

namespace MapAudit.Script

namespace Utility

open Procedure

/-! ## Conditions -/

/-- How a number is compared with a measure. -/
structure Measure where
  /-- Whether the measure has to be equal, less or greater. -/
  order : Ordering
  /-- The number. -/
  amount : Nat
  deriving DecidableEq, Repr

/-- Whether a measure is as asked for. -/
def Measure.accepts (m : Measure) (n : Nat) : Bool :=
  compare n m.amount = m.order

/-- **Condition** on a node. -/
inductive Condition where
  /-- It is always so, or never. -/
  | always (b : Bool)
  /-- The name matches. -/
  | name (p : FilePattern) (ignoresCase : Bool)
  /-- The path matches. -/
  | path (p : FilePattern) (ignoresCase : Bool)
  /-- The path matches an expression as a whole. -/
  | regex (e : Regex) (ignoresCase : Bool)
  /-- The node is of one of some kinds. -/
  | kind (letters : List Char)
  /-- Nothing is in it. -/
  | empty
  /-- It takes so many units of a size. -/
  | size (m : Measure) (unit : Nat)
  /-- It was changed so many days or minutes ago. -/
  | age (m : Measure) (inDays : Bool)
  /-- It was changed after some time. -/
  | newer (time : Int)
  /-- It has so many names. -/
  | links (m : Measure)
  /-- The target of the link matches. -/
  | target (p : FilePattern) (ignoresCase : Bool)
  /-- Its permissions are those of a number, or have all or one of them. -/
  | permissions (rule : Option Char) (bits : Nat)
  /-- It may be executed. -/
  | executable
  /-- It may be read. -/
  | readable
  /-- It may be written. -/
  | writable
  /-- Its path is written, with a character behind it. -/
  | print (stop : Char)
  /-- Something about it is written. -/
  | printf (format : Raw)
  /-- A program is run for it, perhaps in its directory. -/
  | run (words : List Raw) (isThere : Bool)
  /-- A program is run at the end for all such nodes. -/
  | runAll (number : Nat) (words : List Raw)
  /-- It is removed. -/
  | delete
  /-- What is in it is passed over. -/
  | prune
  /-- The search ends. -/
  | quit
  /-- The condition is not met. -/
  | negated (c : Condition)
  /-- Both conditions are met. -/
  | both (a b : Condition)
  /-- One of the conditions is met. -/
  | either (a b : Condition)
  /-- The second condition is met; the first one is evaluated before. -/
  | sequence (a b : Condition)

namespace Condition

/-- Whether a condition has a deed that makes it needless to write paths. -/
def acts : Condition → Bool
  | .print _ | .printf _ | .run _ _ | .runAll _ _ | .delete => true
  | .negated c => acts c
  | .both a b | .either a b | .sequence a b => acts a || acts b
  | _ => false

/-- Whether a condition removes nodes. -/
def deletes : Condition → Bool
  | .delete => true
  | .negated c => deletes c
  | .both a b | .either a b | .sequence a b => deletes a || deletes b
  | _ => false

/-- The programs that are run at the end. -/
def batches : Condition → List (Nat × List Raw)
  | .runAll n words => [(n, words)]
  | .negated c => batches c
  | .both a b | .either a b | .sequence a b => batches a ++ batches b
  | _ => []

end Condition

/-! ## Reading conditions -/

/-- A condition while it is read. -/
structure ConditionReading where
  /-- The words that are left. -/
  rest : List Raw
  /-- The word that was read last. -/
  last : Raw
  /-- The least depth of nodes. -/
  least : Nat
  /-- The greatest depth of nodes. -/
  most : Option Nat
  /-- Whether a directory comes after what is in it. -/
  isUpward : Bool
  /-- Whether expressions are extended ones. -/
  isExtended : Bool
  /-- Number of programs that are run at the end. -/
  batches : Nat
  /-- Whether there is a node with a path. -/
  isThere : Raw → Bool
  /-- When the node was changed that a path leads to. -/
  timeOf : Raw → Except FileFault Int
  /-- The moment that it is now. -/
  now : Moment

/-- Reader of conditions. -/
abbrev ConditionReader := StateT ConditionReading (Except Raw)

namespace ConditionReader

/-- Says what is wrong. -/
def fail {α : Type} (r : Raw) : ConditionReader α :=
  throw r

/-- The value of the test that was read. -/
def value (test : Raw) : ConditionReader Raw := do
  let s ← get
  match s.rest with
  | r :: rest => do
    set { s with rest }
    return r
  | [] => fail ("missing argument to \x60".toList ++ test ++ ['\x27'])

/-- The number that an option has. -/
def depth (test : Raw) : ConditionReader Nat := do
  let r ← value test
  match Raw.toNat? r with
  | some n => return n
  | none => fail ("Expected a positive decimal integer argument to ".toList ++ test
      ++ ", but got ".toList ++ Quote.curly r)

/-- The measure that a text says. -/
def measure? (r : Raw) : Option Measure :=
  match r with
  | '+' :: digits => (Raw.toNat? digits).map fun amount => { order := .gt, amount }
  | '-' :: digits => (Raw.toNat? digits).map fun amount => { order := .lt, amount }
  | digits => (Raw.toNat? digits).map fun amount => { order := .eq, amount }

/-- The words of a program, up to a semicolon, or to a plus behind braces. -/
def program? : List Raw → List Raw → Option (List Raw × Bool × List Raw)
  | _, [] => none
  | words, [';'] :: rest => some (words.reverse, false, rest)
  | words, r :: rest =>
    if r = ['+'] && words.head? = some ['\x7b', '\x7d'] then
      some ((words.drop 1).reverse, true, rest)
    else program? (r :: words) rest

/-- The letters of kinds in a text. -/
def kinds (r : Raw) : ConditionReader (List Char) := do
  let parts := r.splitOn ','
  let one (part : Raw) : ConditionReader Char := do
    match part with
    | [c] =>
      if "fdlbcpsD".toList.contains c then return c
      else fail ("Unknown argument to -type: ".toList ++ [c])
    | [] => fail ("Unknown argument to -type: ".toList ++ r)
    | _ => fail "Must separate multiple arguments to -type using: ','".toList
  parts.mapM one

/-- The bits of the permissions that a text says. -/
def bits (r : Raw) : ConditionReader Nat := do
  match Mode.ofRaw? r with
  | some mode => return mode.apply false 0 0
  | none => fail ("invalid mode ".toList ++ Quote.curly r)

/-- The condition that a test with its value stands for. -/
def test (r : Raw) : ConditionReader Condition := do
  let measured (f : Measure → Condition) (name : String) : ConditionReader Condition := do
    let v ← value r
    match measure? v with
    | some m => return f m
    | none => fail ("invalid argument \x60".toList ++ v ++ "' to \x60".toList ++ name.toList ++ ['\x27'])
  let programmed (isThere : Bool) : ConditionReader Condition := do
    let s ← get
    match program? [] s.rest with
    | none | some ([], _, _) => fail ("missing argument to \x60".toList ++ r ++ ['\x27'])
    | some (words, isAll, rest) => do
      set { s with rest, batches := if isAll then s.batches + 1 else s.batches }
      return if isAll then .runAll s.batches words else .run words isThere
  match String.ofList r with
  | "-true" => return .always true
  | "-false" => return .always false
  | "-name" => do return .name (.ofRaw (← value r)) false
  | "-iname" => do return .name (.ofRaw ((← value r).map Char.toLower)) true
  | "-path" | "-wholename" => do return .path (.ofRaw (← value r)) false
  | "-ipath" | "-iwholename" => do return .path (.ofRaw ((← value r).map Char.toLower)) true
  | "-regex" | "-iregex" => do
    let v ← value r
    let isExtended := (← get).isExtended
    match Regex.read { isExtended, isLenient := true } (Raw.widen v) with
    | .ok e => return .regex (.both (.at .start) (.both e (.at .finish))) (r = "-iregex".toList)
    | .error fault => fail fault.message.toList
  | "-regextype" => do
    let v ← value r
    let isExtended := ["posix-extended", "egrep", "posix-egrep", "gnu-awk"].contains (String.ofList v)
    modify fun s => { s with isExtended }
    return .always true
  | "-type" | "-xtype" => do return .kind (← kinds (← value r))
  | "-empty" => return .empty
  | "-size" => do
    let v ← value r
    let units : List (Char × Nat) := [('c', 1), ('w', 2), ('b', 512), ('k', 1024), ('M', 1048576),
      ('G', 1073741824)]
    let (digits, unit) := match v.getLast?.bind fun c => units.lookup c with
      | some unit => (v.dropLast, unit)
      | none => (v, 512)
    match measure? digits with
    | some m => return .size m unit
    | none => fail ("invalid -size type \x60".toList ++ v ++ ['\x27'])
  | "-mtime" | "-atime" | "-ctime" => measured (.age · true) (String.ofList r)
  | "-mmin" | "-amin" | "-cmin" => measured (.age · false) (String.ofList r)
  | "-links" => measured .links (String.ofList r)
  | "-lname" => do return .target (.ofRaw (← value r)) false
  | "-ilname" => do return .target (.ofRaw ((← value r).map Char.toLower)) true
  | "-newer" | "-anewer" | "-cnewer" | "-newermm" => do
    let v ← value r
    match (← get).timeOf v with
    | .ok time => return .newer time
    | .error fault => fail (Quote.curly v ++ ": ".toList ++ faultText fault)
  | "-newermt" => do
    let v ← value r
    match Moment.ofRaw? (← get).now v with
    | some m => return .newer m.total
    | none => fail ("I cannot figure out how to interpret ".toList ++ Quote.curly v
        ++ " as a date or time".toList)
  | "-user" | "-group" | "-uid" | "-gid" => do
    let _ ← value r
    return .always true
  | "-perm" => do
    let v ← value r
    match v with
    | '-' :: rest => do return .permissions (some '-') (← bits rest)
    | '/' :: rest => do return .permissions (some '/') (← bits rest)
    | v => do return .permissions none (← bits v)
  | "-executable" => return .executable
  | "-readable" => return .readable
  | "-writable" => return .writable
  | "-mount" | "-xdev" | "-noleaf" | "-daystart" | "-follow" | "-warn"
  | "-nowarn" | "-ignore_readdir_race" => return .always true
  | "-maxdepth" => do
    let n ← depth r
    modify fun s => { s with most := some n }
    return .always true
  | "-mindepth" => do
    let n ← depth r
    modify fun s => { s with least := n }
    return .always true
  | "-depth" | "-d" => do
    modify fun s => { s with isUpward := true }
    return .always true
  | "-print" => return .print '\n'
  | "-print0" => return .print '\x00'
  | "-printf" => do return .printf (← value r)
  | "-exec" => programmed false
  | "-execdir" => programmed true
  | "-delete" => do
    modify fun s => { s with isUpward := true }
    return .delete
  | "-prune" => return .prune
  | "-quit" => return .quit
  | _ =>
    if r.head? = some '-' then fail ("unknown predicate \x60".toList ++ r ++ ['\x27'])
    else do
      let s ← get
      fail ("paths must precede expression: \x60".toList ++ r ++ ['\x27']
        ++ (if s.last.isEmpty || !s.isThere r then [] else
          "\nfind: possible unquoted pattern after predicate \x60".toList ++ s.last ++ "'?".toList))

/-- What is said about an operator without something before it. -/
def operatorFault (op : Raw) : Raw :=
  "invalid expression; you have used a binary operator '".toList ++ op
    ++ "' with nothing before it.".toList

mutual

/-- Reads conditions of which one has to be met, and those that come one after
    another. -/
def alternatives : (n : Nat) → (isNested : Bool) → ConditionReader Condition
  | 0, _ => fail []
  | n + 1, isNested => do
    let first ← conjunction n isNested
    let s ← get
    match s.rest with
    | r :: rest => do
      if r = "-o".toList || r = "-or".toList then
        set { s with rest }
        return .either first (← alternatives n isNested)
      else if r = [','] then
        set { s with rest }
        return .sequence first (← alternatives n isNested)
      else return first
    | [] => return first

/-- Reads conditions that all have to be met. -/
def conjunction : (n : Nat) → (isNested : Bool) → ConditionReader Condition
  | 0, _ => fail []
  | n + 1, isNested => do
    let first ← single n isNested
    let s ← get
    match s.rest with
    | [] => return first
    | r :: rest => do
      let isAnd := r = "-a".toList || r = "-and".toList
      if r = [')'] && !isNested then fail "you have too many ')'".toList
      if r = [')'] || r = [','] || r = "-o".toList || r = "-or".toList then return first
      if isAnd then set { s with rest }
      return .both first (← conjunction n isNested)

/-- Reads one condition. -/
def single : (n : Nat) → (isNested : Bool) → ConditionReader Condition
  | 0, _ => fail []
  | n + 1, isNested => do
    let s ← get
    match s.rest with
    | [] => fail ("expected an expression after '".toList ++ s.last ++ ['\x27'])
    | r :: rest => do
      set { s with rest, last := r }
      match String.ofList r with
      | "!" | "-not" => do return .negated (← single n isNested)
      | "(" => do
        let inner ← alternatives n true
        let s ← get
        match s.rest with
        | [')'] :: rest => do
          set { s with rest }
          return inner
        | _ => fail ("invalid expression; I was expecting to find a ')' somewhere "
            ++ "but did not see one.").toList
      | ")" => fail "you have too many ')'".toList
      | "-o" | "-or" | "-a" | "-and" | "," => fail (operatorFault r)
      | _ => do
        modify fun t => { t with last := s.last }
        let c ← test r
        modify fun t => { t with last := r }
        return c

end

end ConditionReader

/-! ## Nodes -/

/-- A node that was found. -/
structure Finding where
  /-- The path. -/
  path : Raw
  /-- The path that the search began with. -/
  start : Raw
  /-- The number of directories between the start and the node. -/
  depth : Nat
  /-- The node. -/
  node : FileTree

namespace Finding

/-- The letter of the kind of a node. -/
def kindLetter : FileTree → Char
  | .file _ => 'f'
  | .directory _ _ => 'd'
  | .link _ => 'l'
  | .pipe _ => 'p'
  | .device _ => 'c'

/-- The letter of the kind of the node that was found. -/
def kind (f : Finding) : Char :=
  kindLetter f.node

/-- The size of a node. -/
def size (f : Finding) : Nat :=
  match f.node with
  | .file g => g.content.size
  | .directory _ _ => 4096
  | .link target => (Raw.ofText target.text).length
  | .pipe _ | .device _ => 0

/-- The bits of the permissions of a node. -/
def bits (f : Finding) : Nat :=
  match f.node with
  | .link _ => 0o777
  | .pipe _ => 0o644
  | .device _ => 0o666
  | node => ((node.attributes?).map (·.permissions)).getD 0o644

/-- When a node was changed last. -/
def time (f : Finding) : Int :=
  ((f.node.attributes?).map (·.time)).getD Attributes.start

/-- The name of a node. -/
def name (f : Finding) : Raw :=
  lastName f.path

/-- How long ago a node was changed, as a measure asks for. -/
def isAged (f : Finding) (now : Moment) (m : Measure) (inDays : Bool) : Bool :=
  let age := now.total - f.time
  let unit := (if inDays then Date.daySeconds else 60) * Moment.secondSize
  let n : Int := (m.amount : Nat)
  let first := if inDays then n else n - 1
  match m.order with
  | .eq => first * unit ≤ age && age < (first + 1) * unit
  | .lt => age < n * unit + (if inDays then Moment.secondSize else 0)
  | .gt => (first + 1) * unit < age

/-- How many names a node has in a tree. -/
def links (f : Finding) (tree : FileTree) : Nat :=
  match f.node with
  | .file g =>
    match g.kinship with
    | none => 1
    | some n => ((tree.nodes []).filter fun (_, node) => match node with
        | .file h => h.kinship = some n
        | _ => false).length
  | .directory _ entries => 2 + (entries.filter fun (_, node) => node matches .directory _ _).length
  | _ => 1

/-- A time in the form that a letter asks for. -/
def timeText (f : Finding) (c : Char) : Raw :=
  let m := Moment.ofNanoseconds f.time
  let fraction := (Padding.mk (some '0') 9).number m.nanoseconds ++ ['0']
  match c with
  | '@' => Raw.ofInt m.seconds ++ '.' :: fraction
  | '+' => m.format "UTC" "%Y-%m-%d+%H:%M:%S." ++ fraction
  | 'S' => m.format "UTC" "%S." ++ fraction
  | 'T' | 'X' => m.format "UTC" "%H:%M:%S." ++ fraction
  | c => m.format "UTC" ['%', c]

/-- What a directive of a format stands for. -/
def described (f : Finding) (tree : FileTree) (c : Char) : Option Raw :=
  match c with
  | 'p' => some f.path
  | 'f' => some (if f.path.all (· = '/') then f.path else f.name)
  | 'h' => some (if f.path.contains '/' then (f.path.reverse.dropWhile (· ≠ '/')).drop 1 |>.reverse
      else ['.'])
  | 'P' => some ((f.path.drop f.start.length).dropWhile (· = '/'))
  | 'H' => some f.start
  | 'd' => some (Raw.ofNat f.depth)
  | 's' => some (Raw.ofNat f.size)
  | 'k' => some (Raw.ofNat ((f.size + 4095) / 4096 * 4))
  | 'b' => some (Raw.ofNat ((f.size + 4095) / 4096 * 8))
  | 'n' => some (Raw.ofNat (f.links tree))
  | 'y' | 'Y' => some [f.kind]
  | 'm' => some (Nat.toDigits 8 f.bits)
  | 'M' => some ((if f.kind = 'f' then '-' else f.kind) :: Mode.letters f.bits)
  | 't' | 'a' | 'c' => some ((Moment.ofNanoseconds f.time).format "UTC" "%a %b %e %H:%M:%S.%N0 %Y")
  | 'l' => match f.node with
    | .link target => some (Raw.ofText target.text)
    | _ => some []
  | 'u' | 'g' => some "root"
  | 'U' | 'G' => some ['0']
  | '%' => some ['%']
  | _ => none

/-- A text that is as wide as flags in front of a directive ask for. -/
def widened (flags : Raw) (r : Raw) : Raw :=
  let width := (Raw.toNat? (flags.dropWhile (!Char.isDigit ·))).getD 0
  let gap := List.replicate (width - r.length) ' '
  if flags.contains '-' then r ++ gap else gap ++ r

/-- What a format says about a node, at most `n` characters of it. -/
def formatted (f : Finding) (tree : FileTree) : (n : Nat) → Raw → Raw
  | 0, _ => []
  | _ + 1, [] => []
  | n + 1, '%' :: rest =>
    let flags := rest.takeWhile fun c => c.isDigit || c = '-' || c = ' '
    match rest.drop flags.length with
    | 'T' :: c :: rest | 'A' :: c :: rest | 'C' :: c :: rest =>
      widened flags (f.timeText c) ++ formatted f tree n rest
    | c :: left =>
      match f.described tree c with
      | some r => widened flags r ++ formatted f tree n left
      | none => '%' :: formatted f tree n rest
    | [] => '%' :: flags
  | n + 1, '\\' :: c :: rest =>
    match c with
    | 'n' => '\n' :: formatted f tree n rest
    | 't' => '\t' :: formatted f tree n rest
    | 'r' => '\r' :: formatted f tree n rest
    | 'a' => '\x07' :: formatted f tree n rest
    | 'b' => '\x08' :: formatted f tree n rest
    | 'f' => '\x0c' :: formatted f tree n rest
    | 'v' => '\x0b' :: formatted f tree n rest
    | 'c' => []
    | '\\' => '\\' :: formatted f tree n rest
    | c =>
      if Raw.isOctal c then
        let digits := ((c :: rest).take 3).takeWhile Raw.isOctal
        Raw.byteOf (Raw.octalValue digits) :: formatted f tree n ((c :: rest).drop digits.length)
      else '\\' :: c :: formatted f tree n rest
  | n + 1, c :: rest => c :: formatted f tree n rest

end Finding

/-! ## The search -/

/-- How a search stands. -/
structure SearchState where
  /-- Whether what is in the node is passed over. -/
  isPruned : Bool := false
  /-- Whether the search has ended. -/
  isOver : Bool := false
  /-- The exit status. -/
  status : Nat := 0
  /-- The paths for the programs that are run at the end, last one first. -/
  waiting : List (Nat × Raw) := []

/-- Part of a search. -/
abbrev Finder := StateT SearchState Procedure

namespace Finder

/-- Complains, and remembers that something went wrong. -/
def complainAbout (r : Raw) : Finder Unit := do
  tell r
  modify fun s => { s with status := 1 }

/-- Runs a program as a process that first makes itself ready. The answer says
    whether it succeeded. -/
def runProgram (e : Engine) (ready : Procedure Unit) (words : List Raw) : Procedure Bool := do
  let ending ← await (← start e ready (becomeCalled e Quote.curly words))
  return ending.status = 0

/-- Removes a node. The answer says whether that was possible. -/
def delete (f : Finding) : Finder Bool := do
  if f.path = ['.'] then return true
  match ← findName f.path, ← locateName f.path with
  | .ok (.directory _ (_ :: _)), _ => do
    complainAbout ("cannot delete ".toList ++ Quote.curly f.path ++ ": Directory not empty".toList)
    return false
  | .ok _, .ok location => do
    if !(← getThe Shell).machine.tree.isOpenAbove location then
      complainAbout ("cannot delete ".toList ++ Quote.curly f.path ++ ": ".toList ++ faultText .denied)
      return false
    onMachine (·.remove location)
    return true
  | .error fault, _ | _, .error fault => do
    complainAbout ("cannot delete ".toList ++ Quote.curly f.path ++ ": ".toList ++ faultText fault)
    return false

/-- Whether a node meets a condition. -/
def meets (e : Engine) (f : Finding) : Condition → Finder Bool
  | .always b => return b
  | .name p ignoresCase =>
    return p.acceptsRaw (if ignoresCase then f.name.map Char.toLower else f.name)
  | .path p ignoresCase =>
    return p.acceptsRaw (if ignoresCase then f.path.map Char.toLower else f.path)
  | .regex pattern ignoresCase => return pattern.isIn ignoresCase (Raw.widen f.path)
  | .kind letters => return letters.contains f.kind
  | .empty =>
    return match f.node with
      | .file g => g.content.size = 0
      | .directory a entries => a.isReadable && entries.isEmpty
      | _ => false
  | .size m unit => return m.accepts ((f.size + unit - 1) / unit)
  | .age m inDays => do
    let now := Moment.ofNanoseconds (← getThe Shell).machine.time
    return f.isAged now m inDays
  | .newer time => return time < f.time
  | .links m => do return m.accepts (f.links (← getThe Shell).machine.tree)
  | .target p ignoresCase =>
    return match f.node with
      | .link target =>
        let r := Raw.ofText target.text
        p.acceptsRaw (if ignoresCase then r.map Char.toLower else r)
      | _ => false
  | .permissions rule bits =>
    return match rule with
      | some '-' => f.bits &&& bits = bits
      | some _ => bits = 0 || f.bits &&& bits ≠ 0
      | none => f.bits = bits
  | .executable => return ((f.node.attributes?).map (·.isPassable)).getD (f.kind = 'l')
  | .readable => return ((f.node.attributes?).map (·.isReadable)).getD true
  | .writable => return ((f.node.attributes?).map (·.isWritable)).getD true
  | .print stop => do
    Procedure.write (f.path ++ [stop])
    return true
  | .printf format => do
    let tree := (← getThe Shell).machine.tree
    Procedure.write (f.formatted tree (format.length + 1) format)
    return true
  | .run words isThere => do
    let shown := if isThere then "./".toList ++ f.name else f.path
    let words := words.map fun word => withReplaced "\x7b\x7d" shown (word.length + 1) word
    let ready : Procedure Unit := do
      if isThere then
        match ← locate (directoryName f.path) with
        | .ok location => onSelf fun p => { p with directory := location }
        | .error _ => return ()
    runProgram e ready words
  | .runAll n _ => do
    modify fun s => { s with waiting := (n, f.path) :: s.waiting }
    return true
  | .delete => delete f
  | .prune => do
    modify fun s => { s with isPruned := true }
    return true
  | .quit => do
    modify fun s => { s with isOver := true }
    return true
  | .negated c => do return !(← meets e f c)
  | .both a b => do
    let first ← meets e f a
    if first && !(← get).isOver then meets e f b else return false
  | .either a b => do if ← meets e f a then return true else meets e f b
  | .sequence a b => do
    let _ ← meets e f a
    meets e f b

/-- Nodes in the order in which a directory comes after what is in it. `above` are
    the directories that the nodes are in, the nearest first. -/
def upward : (above : List (Location × FileTree)) → List (Location × FileTree) →
    List (Location × FileTree)
  | above, [] => above
  | above, (way, node) :: rest =>
    let ended := above.takeWhile fun (place, _) => !place.isPrefixOf way
    ended ++ upward ((way, node) :: above.drop ended.length) rest

/-- Goes through nodes below the start of a search. Those are passed over that are
    in one of the directories `pruned`. -/
def through (e : Engine) (r : ConditionReading) (c : Condition) (start : Raw) (isFollowed : Bool) :
    List (Location × FileTree) → (pruned : List Location) → Finder Unit
  | [], _ => return ()
  | (way, node) :: rest, pruned => do
    let goOn := through e r c start isFollowed rest
    let depth := way.length
    let path := way.foldl (fun path name => within path (Raw.ofText name)) start
    if (← get).isOver then return ()
    if pruned.any (·.isPrefixOf way) || r.most.any (· < depth) then goOn pruned
    else
      let answer ← findName path
      let found : Except FileFault FileTree := match answer with
        | .error .denied => .ok node
        | answer => answer
      match found with
      | .error _ => goOn pruned
      | .ok now => do
        let seen ← if isFollowed && now matches .link _ then do
            match ← Procedure.find path with
            | .ok target => pure target
            | .error _ => pure now
          else pure now
        let isThere := r.least ≤ depth
        modify fun s => { s with isPruned := false }
        if isThere then
          let _ ← meets e { path, start, depth, node := seen } c
        let isPruned := (← get).isPruned && !r.isUpward
        let isDirectory := node matches .directory _ _
        if isDirectory && !isPruned && !r.isUpward && r.most.all (depth < ·) && !(← get).isOver then
          let isOpen : Bool := match now with
            | .directory a _ => a.isReadable
            | _ => true
          match ← findName path with
          | .ok _ => do
            if isOpen then goOn pruned
            else
              complainAbout (Quote.curly path ++ ": ".toList ++ faultText .denied)
              goOn (way :: pruned)
          | .error fault => do
            complainAbout (Quote.curly path ++ ": ".toList ++ faultText fault)
            goOn (way :: pruned)
        else goOn (if isPruned then way :: pruned else pruned)

/-- Goes through all that is below the start of a search. -/
def search (e : Engine) (r : ConditionReading) (c : Condition) (isFollowed : Bool) (start : Raw) :
    Finder Unit := do
  if (← get).isOver then return ()
  let found ← if isFollowed then do
      match ← Procedure.find start with
      | .ok node => pure (.ok node)
      | .error _ => findName start
    else findName start
  match found with
  | .error fault => complainAbout (Quote.curly start ++ ": ".toList ++ faultText fault)
  | .ok node => do
    let nodes := FileTree.nodes [] node
    through e r c start isFollowed (if r.isUpward then upward [] nodes else nodes) []

end Finder

/-- Finds files. -/
def find (e : Engine) (arguments : List Raw) : Procedure Nat := do
  let flags := arguments.takeWhile fun r => r = "-L".toList || r = "-H".toList || r = "-P".toList
  let isFollowed := (flags.getLast?).any fun r => r = "-L".toList
  let words := arguments.drop flags.length
  let isExpression (r : Raw) : Bool :=
    (r.head? = some '-' && 1 < r.length) || r = ['('] || r = [')'] || r = ['!']
  let starts := words.takeWhile (!isExpression ·)
  let rest := words.drop starts.length
  let s ← get
  let start : ConditionReading := {
    rest
    last := []
    least := 0
    most := none
    isUpward := false
    isExtended := false
    batches := 0
    isThere := fun r => s.machine.tree.findName s.directory (pathOf r) matches .ok _
    timeOf := fun r => (s.machine.tree.find s.directory (pathOf r)).map fun node =>
      ((node.attributes?).map (·.time)).getD Attributes.start
    now := .ofNanoseconds s.machine.time }
  let answer : Except Raw (Condition × ConditionReading) :=
    if rest.isEmpty then .ok (.always true, start)
    else (ConditionReader.alternatives (4 * rest.length + 4) false).run start
  match answer with
  | .error complaint => refuse 1 complaint
  | .ok (c, r) => do
    let c := if c.acts then c else .both c (.print '\n')
    let starts := if starts.isEmpty then [['.']] else starts
    let all : Finder Unit := do
      starts.forM (Finder.search e r c isFollowed)
      c.batches.forM fun (n, words) => do
        let paths := ((← get).waiting.filter (·.1 = n)).reverse.map (·.2)
        if !paths.isEmpty then
          if !(← Finder.runProgram e (return ()) (words ++ paths)) then
            modify fun s => { s with status := 1 }
    let (_, s) ← all.run {}
    return s.status

end Utility

end MapAudit.Script
