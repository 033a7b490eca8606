import MapAudit.Script.Engine
import MapAudit.Script.Field
import MapAudit.Script.Declaration
import MapAudit.Script.Slot
import MapAudit.Script.Print.Escape

/-! # Expanding words

    The pieces of a word become glyphs when a command is run: parameters are
    replaced by their values, expressions by numbers, and commands by what they
    write. Commands inside of words are run by an engine that is given.
-/

namespace MapAudit.Script

namespace Procedure

/-! ## Parameters -/

/-- What a parameter holds. -/
inductive Content where
  /-- Nothing. -/
  | missing
  /-- A text. -/
  | one (r : Raw)
  /-- Texts, which become one between quotes if they `join`. -/
  | several (texts : List Raw) (join : Bool)

/-- The characters that texts fall apart at. -/
def separators : Procedure Raw := do
  return (← valueOf? "IFS".toList).getD [' ', '\t', '\n']

/-- Texts with the first separator between them. -/
def joined (texts : List Raw) : Procedure Raw := do
  return ((← separators).take 1).intercalate texts

/-- The number that a word says. -/
def numberOf (e : Engine) (w : Word) : Procedure Int := do
  computeText (Glyph.text (← e.glyphs w))

/-- What a variable holds at an index. -/
def contentAt (e : Engine) (name : Raw) (index : Word) : Procedure Content := do
  let all : List Raw := match ← lookUp? name with
    | some { value := .list elements, .. } => elements.map (·.2)
    | some { value := .table elements, .. } => elements.map (·.2)
    | some { value := .text r, .. } => [r]
    | _ => []
  let found : Option Raw ← match index with
    | [] => valueOf? name
    | [.plain ['@']] => return .several all false
    | [.plain ['*']] => return .several all true
    | index => do textAt? (← slotAt name (Glyph.text (← e.glyphs index)))
  match found with
  | some r => return .one r
  | none => return .missing

/-- What a parameter holds. -/
def contentOf (e : Engine) (name : Raw) (index : Word) : Procedure Content := do
  let s ← get
  match name with
  | ['@'] => return .several s.arguments false
  | ['*'] => return .several s.arguments true
  | ['#'] => return .one (Raw.ofNat s.arguments.length)
  | ['?'] => return .one (Raw.ofNat s.status)
  | ['$'] => return .one (Raw.ofNat s.mainProcess)
  | ['-'] =>
    match s.dialect with
    | .sh => return .one ("pubaCEVvxsnmiIfe".toList.filter s.options.contains)
    | .bash => return .one ("abefhkmnptuvxBCEHPTc".toList.filter s.options.contains)
  | ['!'] =>
    match s.background with
    | some n => return .one (Raw.ofNat n)
    | none => return .missing
  | _ =>
    match Raw.toNat? name with
    | some 0 => return .one s.name
    | some (n + 1) =>
      match s.arguments[n]? with
      | some r => return .one r
      | none => return .missing
    | none =>
      drawFor name
      if name = "LINENO".toList && s.dialect = .bash then return .one (Raw.ofNat s.line)
      else contentAt e name index

/-- Whether a parameter holds nothing, or no character either if `forEmpty`. -/
def isMissing (forEmpty : Bool) (c : Content) : Procedure Bool :=
  match c with
  | .missing => return true
  | .one r => return forEmpty && r.isEmpty
  | .several texts _ => do
    if texts.isEmpty then return true
    return forEmpty && (← joined texts).isEmpty

/-- The glyphs of what a parameter holds. -/
def contentGlyphs (c : Content) (isQuoted : Bool) : Procedure (List Glyph) := do
  match c with
  | .missing => return []
  | .one r => return Glyph.value isQuoted r
  | .several texts join =>
    if join && isQuoted then return Glyph.value true (← joined texts)
    else return Glyph.fields isQuoted texts

/-- What every text of a content becomes. -/
def Content.map (f : Raw → Raw) : Content → Content
  | .missing => .missing
  | .one r => .one (f r)
  | .several texts join => .several (texts.map f) join

/-- Complains about a parameter that holds nothing. -/
def refuseMissing {α : Type} (name : Raw) : Procedure α := do
  if ← isRich then
    let shown := if name.all Char.isDigit then '$' :: name else name
    warn (shown ++ ": unbound variable")
    throw (.fault 1)
  else refuse (name ++ ": parameter not set")

/-- Refuses a parameter that holds nothing if that is an error. -/
def demand (name : Raw) (c : Content) : Procedure Unit := do
  if c matches .missing then
    if (← hasOption 'u') && name ≠ ['@'] && name ≠ ['*'] then refuseMissing name

/-- The glyphs of a word that stands in for a value: they fall apart like a value
    does, unless they are quoted. -/
def standInGlyphs (e : Engine) (w : Word) (isQuoted : Bool) : Procedure (List Glyph) := do
  let glyphs ← e.glyphs w
  if isQuoted then return glyphs
  return glyphs.map fun g => match g with
    | .char c false _ => .char c false true
    | g => g

/-- How names of files are matched now. -/
def globbing : Procedure Globbing := do
  let s ← get
  return {
    dialect := s.dialect
    groups := s.isOn "extglob"
    showsHidden := s.isOn "dotglob"
    isDeep := s.isOn "globstar"
    ignoresCase := s.isOn "nocaseglob" }

/-- The pattern that a word says. -/
def patternOf (e : Engine) (w : Word) : Procedure FilePattern := do
  let g ← globbing
  return { g with ignoresCase := false }.pattern (Glyph.marks (← e.glyphs w))

/-- What a function of texts whose characters count comes to for every text of a
    content. -/
def Content.mapSpread (d : Dialect) (f : List Char → List Char) (c : Content) : Content :=
  c.map fun r => d.gather (f (d.spread r))

/-- A text with the letters changed that a pattern accepts: the first one, or
    all. -/
def recaseWhere (recasing : Recasing) (all : Bool) (p : FilePattern) (r : Raw) : Raw :=
  let changed (c : Char) : Char :=
    if p.isEmpty || p.accepts [c] then recased recasing c else c
  if all then r.map changed
  else match r with
    | [] => []
    | c :: rest => changed c :: rest

/-- The length of the longest start of a text that a pattern matches. -/
def longestStart? (p : FilePattern) (r : Raw) : Option Nat :=
  ((p.rests r).getLast?).map fun rest => r.length - rest.length

/-- A text with matches of a pattern replaced, at most `n` steps along it. -/
def substituteAll (p : FilePattern) (replacement : Raw → Raw) : (n : Nat) → Raw → Raw
  | 0, r => r
  | _ + 1, [] => []
  | n + 1, c :: rest =>
    match longestStart? p (c :: rest) with
    | some (k + 1) =>
      replacement (c :: rest.take k) ++ substituteAll p replacement n (rest.drop k)
    | _ => c :: substituteAll p replacement n rest

/-- A text with the first match of a pattern replaced, at most `n` steps along
    it. -/
def substituteFirst (p : FilePattern) (replacement : Raw → Raw) : (n : Nat) → Raw → Raw
  | 0, r => r
  | _ + 1, [] => []
  | n + 1, c :: rest =>
    match longestStart? p (c :: rest) with
    | some (k + 1) => replacement (c :: rest.take k) ++ rest.drop k
    | _ => c :: substituteFirst p replacement n rest

/-- A text with matches of a pattern replaced by what is made of them. -/
def substitute (occurrence : Occurrence) (p : FilePattern) (replacement : Raw → Raw) (r : Raw) :
    Raw :=
  match occurrence with
  | .first => if p.isEmpty then r else substituteFirst p replacement (r.length + 1) r
  | .every => if p.isEmpty then r else substituteAll p replacement (r.length + 1) r
  | .atStart =>
    match longestStart? p r with
    | some n => replacement (r.take n) ++ r.drop n
    | none => r
  | .atEnd =>
    let cut := p.cutEnd true r
    if cut.length = r.length && !p.isEmpty then r
    else cut ++ replacement (r.drop cut.length)

/-- What replaces a match, given the marks of what is written for it: an ampersand stands
    for the match if it may and is not quoted. -/
def replacing (marks : List Mark) (hasMatch : Bool) (found : Raw) : Raw :=
  let parts := (marks.map fun (c, isQuoted) =>
    if hasMatch && c = '&' && !isQuoted then none else some c).splitOn none
  found.intercalate (parts.map fun part => Raw.widen (part.filterMap id))

/-- A part of a list, from a place on and perhaps only so long. Negative numbers
    count from the end. -/
def slice {α : Type} (offset : Int) (length : Option Int) (l : List α) : List α :=
  let size : Int := l.length
  let start := if offset < 0 then size + offset else offset
  if start < 0 || start > size then []
  else
    let rest := l.drop start.toNat
    match length with
    | none => rest
    | some n => if n < 0 then rest.take (size + n - start).toNat else rest.take n.toNat

/-- Whether a part cannot be taken from a text of some size, as it would end before its
    start; or from a list, for which its end does not count from the end of all. -/
def hasNoEnd (offset : Int) (length : Option Int) (size : Option Nat) : Bool :=
  match length with
  | none => false
  | some n =>
    match size with
    | none => n < 0
    | some size =>
      let start := if offset < 0 then (size : Int) + offset else offset
      0 ≤ start && start ≤ size && n < 0 && (size : Int) + n < start

/-- The escapes that are resolved in the other form of a text. -/
def escapeRule : EscapeRule where
  letters := EscapeRule.commonLetters ++ ['e', 'E', '"', '\x27', '?']
  hasOctal := true
  hasLongOctal := false
  hasHex := true
  hasUnicode := true
  hasEnd := false

/-- Whether an index stands for all elements. -/
def isForAll : Word → Bool
  | [.plain ['@']] | [.plain ['*']] => true
  | _ => false

/-- A text in another form. -/
def transformed (letter : Char) (r : Raw) : Raw :=
  match letter with
  | 'Q' => Quote.reusable r
  | 'E' => (escapeRule.resolve r).1
  | 'U' => recase .upper r
  | 'L' => recase .lower r
  | 'u' => Raw.narrow (recaseWhere .upper false [] (Raw.widen r))
  | _ => r

/-- What a parameter comes to in another form, named by a letter. -/
def transformedContent (letter : Char) (name : Raw) (index : Word) (c : Content) :
    Procedure Content := do
  let isWhole := isForAll index
  match letter, c with
  | 'A', .several texts _ =>
    if name = ['@'] || name = ['*'] then
      return .one ("set -- ".toList ++ [' '].intercalate (texts.map Quote.reusable))
  | _, _ => pure ()
  match letter, ← lookUp? name with
  | 'A', none | 'a', none => return if c matches .several _ _ then c else .missing
  | 'A', some v =>
    if isWhole then return .one (v.declaration name)
    match c, v.value with
    | .one r, .list _ | .one r, .table _ =>
      return .one ("declare -" ++ v.letters ++ ' ' :: name ++ '=' :: Quote.reusable r)
    | _, _ => return .one (v.assignment name)
  | 'a', some v => return if isWhole then c.map fun _ => v.letters else .one v.letters
  | 'K', some v =>
    if !isWhole then return c.map Quote.reusable
    let pairs := v.elementPairs.map fun (key, r) =>
      Variable.elementName key ++ ' ' :: Quote.declared r
    return .one ([' '].intercalate pairs ++ (if v.value matches .table _ then [' '] else []))
  | 'k', some v =>
    if !isWhole then return c.map Quote.reusable
    return .several (v.elementPairs.flatMap fun (key, r) => [key, r]) false
  | _, _ => return c.map (transformed letter)

/-- The parameter that a text names, and the index in it. -/
def target? (r : Raw) : Option (Raw × Word) :=
  match Slot.split? r, r with
  | some (name, index), _ => some (name, [.plain index])
  | none, [c] => if Reader.beginsName c || Reader.isSpecial c then some (r, []) else none
  | none, r => if Reader.isName r || (!r.isEmpty && r.all Char.isDigit) then some (r, []) else none

/-- What a modifier makes of what a parameter holds. -/
def modified (e : Engine) (name : Raw) (index : Word) (m : Modifier) (operands : List Word)
    (isQuoted : Bool) : Procedure (List Glyph) := do
  let c ← contentOf e name index
  let w := operands.headD []
  match m with
  | .asIs => do
    demand name c
    contentGlyphs c isQuoted
  | .length => do
    demand name c
    let n ← match c with
      | .missing => pure 0
      | .one r => pure ((← get).dialect.spread r).length
      | .several texts _ =>
        if ← isRich then pure texts.length else pure (← joined texts).length
    return Glyph.value isQuoted (Raw.ofNat n)
  | .standIn forEmpty => do
    if ← isMissing forEmpty c then standInGlyphs e w isQuoted else contentGlyphs c isQuoted
  | .replace forEmpty => do
    if ← isMissing forEmpty c then return [] else standInGlyphs e w isQuoted
  | .assign forEmpty => do
    if ← isMissing forEmpty c then
      if !Reader.isName name then
        if ← isRich then
          warn ("$" ++ name ++ ": cannot assign in this way")
          throw (.discard 1)
        else refuse (name ++ ": bad variable name")
      let r := Glyph.text (← e.glyphs w)
      if index.isEmpty then setVariable name r
      else setAt (← slotAt name (Glyph.text (← e.glyphs index))) r
      return Glyph.value isQuoted r
    else contentGlyphs c isQuoted
  | .require forEmpty => do
    if ← isMissing forEmpty c then
      let said := Glyph.text (← e.glyphs w)
      let rich ← isRich
      let usual := if !forEmpty then "parameter not set"
        else if rich then "parameter null or not set" else "parameter not set or null"
      warn (name ++ ": " ++ (if said.isEmpty then usual.toList else said))
      throw (.fault (if rich then 1 else 2))
    else contentGlyphs c isQuoted
  | .cutStart longest => do
    demand name c
    let p ← patternOf e w
    contentGlyphs (c.mapSpread (← get).dialect (p.cutStart longest)) isQuoted
  | .cutEnd longest => do
    demand name c
    let p ← patternOf e w
    contentGlyphs (c.mapSpread (← get).dialect (p.cutEnd longest)) isQuoted
  | .slice => do
    demand name c
    let offset ← numberOf e w
    let length ← match operands with
      | _ :: l :: _ => do pure (some (← numberOf e l))
      | _ => pure none
    let script := (← get).name
    let size := match c with
      | .one r => some (Dialect.bash.spread r).length
      | .missing => some 0
      | .several _ _ => none
    if hasNoEnd offset length size then
      let shown := Glyph.text (← e.glyphs ((operands.drop 1).headD []))
      warn (shown ++ ": substring expression < 0")
      throw (.discard 1)
    let part := match c with
      | .missing => .missing
      | .one r => .one (Dialect.bash.gather (slice offset length (Dialect.bash.spread r)))
      | .several texts join =>
        let texts := if name = ['@'] || name = ['*'] then script :: texts else texts
        .several (slice offset length texts) join
    contentGlyphs part isQuoted
  | .substitute occurrence => do
    demand name c
    let p ← patternOf e w
    let marks := Glyph.marks (← e.glyphs ((operands.drop 1).headD []))
    let replacement := replacing marks ((← get).isOn "patsub_replacement")
    contentGlyphs (c.mapSpread .bash (substitute occurrence p replacement)) isQuoted
  | .recase recasing all => do
    demand name c
    let p ← patternOf e w
    contentGlyphs (c.mapSpread .bash (recaseWhere recasing all p)) isQuoted
  | .indirect m => do
    let reference := (← get).bindings.lookup name
    match m, reference with
    | .asIs, some { isReference := true, value := .text r, .. } => return Glyph.value isQuoted r
    | _, _ => pure ()
    match c with
    | .one r =>
      match target? r with
      | some (named, slot) =>
        if m = .asIs && (← contentOf e named slot) matches .missing then
          demand ('!' :: name) .missing
        modified e named slot m operands isQuoted
      | none => do
        warn (r ++ ": invalid variable name")
        throw (.discard 1)
    | _ => do
      warn (name ++ ": invalid indirect expansion")
      throw (.discard 1)
  | .indices => do
    let keys : List Raw := match ← lookUp? name with
      | some { value := .list elements, .. } => elements.map fun (k, _) => Raw.ofNat k
      | some { value := .table elements, .. } => elements.map (·.1)
      | some { value := .text _, .. } => [['0']]
      | _ => []
    contentGlyphs (.several keys (match index with
      | [.plain ['*']] => true
      | _ => false)) isQuoted
  | .names => do
    let names := Raw.sort (((← get).bindings.map (·.1)).filter name.isPrefixOf)
    contentGlyphs (.several names (match index with
      | [.plain ['*']] => true
      | _ => false)) isQuoted
  | .transform letter => do
    contentGlyphs (← transformedContent letter name index c) isQuoted
  | .senseless written => do
    if ← isRich then
      warn (written ++ ": bad substitution")
      throw (.discard 1)
    else refuse "Bad substitution".toList

/-! ## Output of commands -/

/-- A text without the line breaks at its end and without NUL characters. -/
def asValue (r : Raw) : Raw :=
  ((r.filter (· != '\x00')).reverse.dropWhile (· == '\n')).reverse

/-- The file that commands do nothing but open for reading, if that stands for what
    is in it. -/
def onlyFile? (d : Dialect) (commands : List Command) : Option Word :=
  match d, commands with
  | .bash, [.simple _ _ [] [] [.toFile 0 .read w _]] => some w
  | _, _ => none

/-! ## Commands at the other end of a pipe -/

/-- Starts commands as a process that has one end of a pipe, and lets a stream lead to
    the other end. The answer is a path to that. -/
def conduit (e : Engine) (leadsIn : Bool) (commands : List Command) : Procedure Raw := do
  let (source, sink) ← makePipe
  hold source
  hold sink
  let (stream, theirs, ours) := if leadsIn then (0, source, sink) else (1, sink, source)
  let child ← start e (do
    joinStream stream theirs
    letGo sink
    letGo source
    modify fun s => { s with depth := s.depth + 1 }) (e.run .final commands)
  let taken := (← get).streams.map (·.1)
  let free := ((List.range 54).map (63 - ·)).find? (!taken.contains ·) |>.getD 9
  joinStream free ours
  letGo sink
  letGo source
  let job : Job := { number := 0, processes := [(child, none)], text := [], isWaitedFor := false }
  modify fun s =>
    { s with
      background := some child, conduits := free :: s.conduits, jobs := s.jobs ++ [job] }
  return "/dev/fd/" ++ Raw.ofNat free

/-- Does something, and closes the streams afterwards that words came to stand for
    meanwhile. -/
def closingConduits {α : Type} (p : Procedure α) : Procedure α := do
  let before := (← get).conduits
  let a ← p
  let after := (← get).conduits
  if before.length < after.length then
    (after.take (after.length - before.length)).forM closeStream
    modify fun s => { s with conduits := before }
  return a

/-! ## Pieces -/

/-- The directory that a tilde and a name stand for. -/
def homeOf (name : Raw) : Procedure (Option Raw) := do
  if name.isEmpty then
    valueOf? "HOME".toList
  else if name = "root".toList then return some "/root".toList
  else if ← isRich then
    let s ← get
    match name with
    | ['+'] => return some s.directoryText
    | ['-'] => valueOf? "OLDPWD".toList
    | '+' :: digits => return picked s false digits
    | '-' :: digits => return picked s true digits
    | digits => return picked s false digits
  else return none
where
  /-- The directory of the stack with a number. -/
  picked (s : Shell) (isFromEnd : Bool) (digits : Raw) : Option Raw := do
    s.directories[← s.directoryIndex? isFromEnd (← Raw.toNat? digits)]?

/-- The glyphs of plain text that may begin with a tilde. `isLast` says that
    nothing comes after it in the word, and `stops` where a name ends. -/
def tildeGlyphs (isLast : Bool) (stops : List Char) (r : Raw) : Procedure (List Glyph) := do
  match r with
  | '~' :: rest =>
    let name := rest.takeWhile fun c => !stops.contains c
    let after := rest.drop name.length
    if after.isEmpty && !isLast then return Glyph.plain r
    match ← homeOf name with
    | some home => return Glyph.quoted home ++ Glyph.plain after
    | none => return Glyph.plain r
  | r => return Glyph.plain r

/-- The glyphs of plain text in an assignment: a tilde counts after every colon. -/
def assignedGlyphs (isLast : Bool) (r : Raw) : Procedure (List Glyph) := do
  let parts := r.splitOn ':'
  let glyphs ← parts.zipIdx.mapM fun (part, i) =>
    tildeGlyphs (isLast || i + 1 < parts.length) ['/', ':'] part
  return (Glyph.plain [':']).intercalate glyphs

/-- The glyphs of a piece. -/
def pieceGlyphs (e : Engine) : Piece → Procedure (List Glyph)
  | .plain r => return Glyph.plain r
  | .quoted r => return Glyph.quoted r
  | .number w isQuoted => do
    let n ← computeText (Glyph.text (← e.glyphs w))
    return Glyph.value isQuoted (Raw.ofInt n)
  | .output commands isQuoted => do
    let d := (← get).dialect
    let content ← match onlyFile? d commands with
      | some w =>
        match ← readFile (Glyph.text (← e.glyphs w)) with
        | .ok r => do
          modify fun s => { s with wordStatus := 0 }
          pure r
        | .error fault => do
          warn (openingText d .read (Glyph.text (← e.glyphs w)) fault)
          modify fun s => { s with wordStatus := 1 }
          pure []
      | none => do
        let (r, ending) ← capturing e do
          if d = .bash && !(← get).isOn "inherit_errexit" then
            modify fun s => { s with options := s.options.filter (· ≠ 'e') }
          modify fun s => { s with depth := s.depth + 1 }
          e.run .final commands
        modify fun s => { s with wordStatus := ending.status, status := ending.status }
        pure r
    if d = .bash && content.contains '\x00' then
      warn "warning: command substitution: ignored null byte in input".toList
    return Glyph.value isQuoted (asValue content)
  | .parameter name index m operands isQuoted => modified e name index m operands isQuoted
  | .conduit leadsIn commands => do return Glyph.quoted (← conduit e leadsIn commands)

/-- The glyphs of a word. -/
def wordGlyphs (e : Engine) (w : Word) : Procedure (List Glyph) := do
  return (← w.mapM (pieceGlyphs e)).flatten

/-- The glyphs of a word that may begin with a tilde. -/
def tildeWordGlyphs (e : Engine) (w : Word) : Procedure (List Glyph) := do
  match w with
  | .plain r :: rest => do
    let first ← tildeGlyphs rest.isEmpty ['/'] r
    return first ++ (← e.glyphs rest)
  | w => e.glyphs w

/-- A word in which the arguments of the script become one text. -/
def joiningArguments (d : Dialect) (w : Word) : Word :=
  w.map fun piece => match piece, d with
    | .parameter ['@'] i m o _, .sh => .parameter ['*'] i m o true
    | .parameter ['*'] i m o _, _ => .parameter ['*'] i m o true
    | piece, _ => piece

/-- The one text that a word stands for. -/
def expandText (e : Engine) (w : Word) : Procedure Raw := do
  return Glyph.text (← tildeWordGlyphs e (joiningArguments (← get).dialect w))

/-- The value that a word stands for in an assignment. -/
def expandValue (e : Engine) (w : Word) : Procedure Raw := do
  let w := joiningArguments (← get).dialect w
  match w with
  | .plain r :: rest => do
    let first ← assignedGlyphs rest.isEmpty r
    return Glyph.text (first ++ (← e.glyphs rest))
  | w => return Glyph.text (← e.glyphs w)

/-- Whether a text is matched by the pattern that a word stands for. Groups count in
    it if they are enabled, or if they always do. -/
def isMatchedBy (e : Engine) (alwaysGroups : Bool) (r : Raw) (w : Word) : Procedure Bool := do
  let s ← get
  let marks := Glyph.marks (← tildeWordGlyphs e (joiningArguments s.dialect w))
  let g ← globbing
  let p := { g with groups := g.groups || alwaysGroups, ignoresCase := false }.pattern marks
  let p : FilePattern := if s.isOn "nocasematch" then FilePattern.folded p else p
  return p.accepts (s.dialect.spread r)

/-- The fields that a word stands for. -/
def expandWord (e : Engine) (w : Word) : Procedure (List Raw) := do
  let glyphs ← tildeWordGlyphs e w
  let fields := Glyph.split (← separators) glyphs
  let s ← get
  if s.options.contains 'f' then return fields.map Field.text
  let g ← globbing
  let expanded ← fields.mapM fun f => do
    match g.matches? s.machine.tree s.directory f with
    | none => return [f.text]
    | some [] =>
      if s.isOn "failglob" then
        warn ("no match: " ++ f.text)
        throw (.discard 1)
      return if s.isOn "nullglob" then [] else [f.text]
    | some paths => return paths
  return expanded.flatten

end Procedure

end MapAudit.Script
