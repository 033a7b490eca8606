import MapAudit.SourceMap.Segments
import MapAudit.Json.Parser

/-! # Source map documents

    A source map is written as a JSON object. All of its members are optional,
    and `null` stands for an absent one, but a member that is present must have
    the right shape and must not be repeated. Members that no document knows are
    let pass if they are sound. In the records inside a document, unknown members
    are let pass whatever they are.

    A member of a document may be a debug identifier: a UUID, with or without its
    hyphens, that may be followed by an age; or a time stamp of eight digits
    followed by an age. The age is set off by a hyphen exactly when the identifier
    is hyphenated. All parts are hexadecimal. An age after a UUID has eight digits
    at most, and what comes after them is let pass.

    Three kinds of documents have the same shape: plain ones, ones made of
    sections, and ones with function scopes. Only plain documents hold a list
    of mappings that can be looked up; for the other two the parts are still
    read, so that an error inside them is reported before their kind is.
-/

/-! ## Debug identifiers -/

namespace MapAudit.DebugId

/-- Whether all characters are hexadecimal digits. -/
def allHex (cs : List Char) : Bool :=
  cs.all fun c => (Json.hexValue? c).isSome

/-- Whether a text is a hexadecimal 32-bit word. A plus sign may stand in front. -/
def isWord (cs : List Char) : Bool :=
  let digits := match cs with
    | '+' :: rest => rest
    | _ => cs
  !digits.isEmpty && allHex digits
    && digits.foldl (fun n c => 16 * n + (Json.hexValue? c).getD 0) 0 < 0x100000000

/-- Whether a text is a UUID with hyphens between its five groups. -/
def isHyphenatedUuid (cs : List Char) : Bool :=
  match cs.splitOn '-' with
  | [a, b, c, d, e] =>
    [a, b, c, d, e].map List.length == [8, 4, 4, 4, 12] && [a, b, c, d, e].all allHex
  | _ => false

/-- Whether a text is a UUID without hyphens. -/
def isPlainUuid (cs : List Char) : Bool :=
  cs.length == 32 && allHex cs

/-- **Debug identifiers**: whether a text is one. -/
def isValid (s : String) : Bool :=
  let cs := s.toList
  if cs.any (128 ≤ ·.toNat) then false
  else if cs[8]? = some '-' then
    if 10 ≤ cs.length ∧ cs.length ≤ 17 then isWord (cs.take 8) && isWord (cs.drop 9)
    else if cs.length = 36 then isHyphenatedUuid cs
    else isHyphenatedUuid (cs.take 36) && cs[36]? = some '-' && isWord ((cs.drop 37).take 8)
  else
    if 9 ≤ cs.length ∧ cs.length ≤ 16 then isWord (cs.take 8) && isWord (cs.drop 8)
    else if cs.length = 32 then isPlainUuid cs
    else isPlainUuid (cs.take 32) && cs[32]? ≠ some '-' && isWord ((cs.drop 32).take 8)

end MapAudit.DebugId

/-! ## Documents -/

namespace MapAudit

namespace Document

/-- The members of a document from which its mappings are read. -/
structure Body where
  /-- The sources. An absent source has an empty name. -/
  sources : List String
  /-- What the names of the sources are relative to. -/
  sourceRoot : String
  /-- Number of names. -/
  names : Nat
  /-- The written mappings. -/
  mappings : String
  /-- The written range bits. -/
  rangeMappings : String
  deriving Repr

end Document

/-- **Document** of a source map. -/
inductive Document where
  /-- A list of mappings. -/
  | plain (body : Document.Body)
  /-- Sections, each with a document of its own or a reference to one. -/
  | sectioned (sections : List (Option Document))
  /-- A list of mappings with function scopes. -/
  | scoped (body : Document.Body)

namespace Document

/-! ## Shape -/

/-- **Shape**: what a value is read as, when arrays and objects may be nested
    `room` deep in it. -/
abbrev Shape (α : Type) := (room : Nat) → Json → Option α

/-- A 32-bit number. -/
def word? : Shape Nat
  | _, .number n => do
    if 10 < n.whole.length then none
    let n ← n.toNat?
    if n < 0x100000000 then return n else none
  | _, _ => none

/-- A text. -/
def text? : Shape String
  | _, .string s => some s
  | _, _ => none

/-- Any sound value. -/
def anything? : Shape Json := fun room v =>
  if v.isSound room then some v else none

/-- A debug identifier. -/
def debugId? : Shape String
  | _, .string s => if DebugId.isValid s then some s else none
  | _, _ => none

/-- A list of values of one shape. -/
def listOf? {α : Type} (shape : Shape α) : Shape (List α)
  | room + 1, .array items => items.mapM (shape room)
  | _, _ => none

/-- A value of some shape, or `null`. -/
def nullOr? {α : Type} (shape : Shape α) : Shape (Option α)
  | _, .null => some none
  | room, v => (shape room v).map some

/-- The values of the members with a key. -/
def valuesOf (key : String) (members : List (String × Json)) : List Json :=
  (members.filter (·.1 = key)).map (·.2)

/-- An optional member: it must not be repeated, and `null` counts as absent. -/
def optional? {α : Type} (shape : Shape α) (key : String) (room : Nat)
    (members : List (String × Json)) : Option (Option α) :=
  match valuesOf key members with
  | [] => some none
  | [v] => nullOr? shape room v
  | _ => none

/-- A required member. -/
def required? {α : Type} (shape : Shape α) (key : String) (room : Nat)
    (members : List (String × Json)) : Option α :=
  match valuesOf key members with
  | [v] => shape room v
  | _ => none

/-- A record, read by its members. It may also be written as the array of its
    values in the order of its keys. -/
def record? {α : Type} (keys : List String)
    (read : (room : Nat) → List (String × Json) → Option α) : Shape α
  | room + 1, .object members => read room members
  | room + 1, .array items => if items.length = keys.length then read room (keys.zip items) else none
  | _, _ => none

/-- The place where a section begins. -/
def offset? : Shape Unit :=
  record? ["line", "column"] fun room members => do
    let _ ← required? word? "line" room members
    let _ ← required? word? "column" room members

/-- A section, whose own document has the shape `document?`. -/
def section? (document? : Json → Option Document) : Shape (Option Document) :=
  record? ["offset", "url", "map"] fun room members => do
    let _ ← required? offset? "offset" room members
    let _ ← optional? text? "url" room members
    optional? (fun _ v => document? v) "map" room members

/-- The scopes of the functions of one source. -/
def functionScopes? : Shape Unit :=
  record? ["names", "mappings"] fun room members => do
    let _ ← required? (listOf? text?) "names" room members
    let _ ← required? text? "mappings" room members

/-- The keys that a document knows. -/
def knownKeys : List String :=
  ["version", "file", "sources", "sourceRoot", "sourcesContent", "sections", "names",
    "rangeMappings", "mappings", "ignoreList", "x_facebook_offsets", "x_metro_module_paths",
    "x_facebook_sources", "debugId", "debug_id"]

/-- The document with the given members, if they have the right shape and there
    is room for them. The document of a section is two levels further in. -/
def ofJson? : (room : Nat) → Json → Option Document
  | room + 1, .object members => do
    guard (members.all fun (key, v) => knownKeys.contains key || v.isSound room)
    let inner := match room with
      | room + 2 => ofJson? room
      | _ => fun _ => none
    let _ ← optional? word? "version" room members
    let _ ← optional? anything? "file" room members
    let sources ← optional? (listOf? (nullOr? text?)) "sources" room members
    let sourceRoot ← optional? text? "sourceRoot" room members
    let _ ← optional? (listOf? (nullOr? text?)) "sourcesContent" room members
    let sections ← optional? (listOf? (section? inner)) "sections" room members
    let names ← optional? (listOf? anything?) "names" room members
    let rangeMappings ← optional? text? "rangeMappings" room members
    let mappings ← optional? text? "mappings" room members
    let _ ← optional? (listOf? word?) "ignoreList" room members
    let _ ← optional? (listOf? (nullOr? word?)) "x_facebook_offsets" room members
    let _ ← optional? (listOf? text?) "x_metro_module_paths" room members
    let scopes ←
      optional? (listOf? (nullOr? (listOf? functionScopes?))) "x_facebook_sources" room members
    let _ ← optional? debugId? "debugId" room members
    let _ ← optional? debugId? "debug_id" room members
    let body : Body := {
      sources := (sources.getD []).map (·.getD "")
      sourceRoot := sourceRoot.getD ""
      names := (names.getD []).length
      mappings := mappings.getD ""
      rangeMappings := rangeMappings.getD "" }
    match sections, scopes with
    | some sections, _ => return .sectioned sections
    | none, some _ => return .scoped body
    | none, none => return .plain body
  | _, _ => none

/-! ## Content -/

/-- Whether the name of a source says by itself where the source is. -/
def isAbsoluteSource (source : String) : Bool :=
  "/".toList.isPrefixOf source.toList
    || "http:".toList.isPrefixOf source.toList
    || "https:".toList.isPrefixOf source.toList

/-- A text without the slash at its end, if it has one. -/
def dropFinalSlash (s : String) : String :=
  if s.toList.getLast? = some '/' then String.ofList s.toList.dropLast else s

/-- The full name of a source under a source root. -/
def underRoot (root source : String) : String :=
  if root = "" ∨ isAbsoluteSource source then source
  else dropFinalSlash root ++ "/" ++ source

/-- The source map of a document's body. -/
def Body.toSourceMap (body : Body) : Except MapError SourceMap := do
  let limits : Segments.Limits := { sources := body.sources.length, names := body.names }
  let mappings ← Segments.read limits body.mappings body.rangeMappings
  return .ofMappings (body.sources.map (underRoot body.sourceRoot)) mappings

mutual

/-- Reads all mappings inside a document of any kind, for their errors. -/
def validate : Document → Except MapError Unit
  | .plain body => do let _ ← body.toSourceMap
  | .scoped body => do let _ ← body.toSourceMap
  | .sectioned sections => validateSections sections

/-- Reads the mappings of sections in their order. -/
def validateSections : List (Option Document) → Except MapError Unit
  | [] => .ok ()
  | s :: rest => do
    validateSection s
    validateSections rest

/-- Reads the mappings of one section. A reference has none. -/
def validateSection : Option Document → Except MapError Unit
  | none => .ok ()
  | some document => document.validate

end

/-- The source map of a document. -/
def toSourceMap : Document → Except MapError SourceMap
  | .plain body => body.toSourceMap
  | document => do
    document.validate
    throw .incompatible

/-! ## Text -/

/-- Skips the rest of a header line. Its line feed stays. `afterReturn` says
    that a carriage return came just before. -/
def skipHeader (afterReturn : Bool) : List Char → Except MapError (List Char)
  | [] => .ok []
  | c :: cs =>
    if c = '\n' then .ok (c :: cs)
    else if afterReturn then .error .expectedNewline
    else skipHeader (c = '\r') cs

/-- The characters that begin a header line: a document that begins with one of
    them would be no JSON object. -/
def isHeaderStart (c : Char) : Bool :=
  c = ')' || c = ']' || c = '\x7d' || c = '\''

/-- A text without its header line, if it has one. -/
def dropHeader : List Char → Except MapError (List Char)
  | [] => .ok []
  | c :: cs => if isHeaderStart c then skipHeader false (c :: cs) else .ok (c :: cs)

/-- The document that a text holds. -/
def parse (text : String) : Except MapError Document := do
  let body ← dropHeader text.toList
  match (Json.scan? body).bind (ofJson? Json.maxNesting) with
  | some document => return document
  | none => throw .badJson

end Document

/-- **Source map** that a text holds. -/
def SourceMap.parse (text : String) : Except MapError SourceMap := do
  (← Document.parse text).toSourceMap

end MapAudit
