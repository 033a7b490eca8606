import MapAudit.Json.Token

/-! # Reading JSON

    The tokens of a text are read one at a time against a stack of the arrays
    and objects that are still open. Every state says what may come next, so a
    text is refused at its first token that is out of place.

    `scan?` asks for the form of a value only. `parse?` also asks that the value
    is sound, with arrays and objects at most `maxNesting` deep.
-/

namespace MapAudit.Json

/-- How deep arrays and objects may be nested. -/
def maxNesting : Nat := 127

/-- A member of an object that is still open. A key can stand for no text. -/
abbrev OpenMember := Option String × Json

/-- An open array or object around the place of reading. What it holds so far
    is kept last one first. -/
inductive Frame where
  /-- An array. -/
  | array (done : List Json)
  /-- An object, with the key whose value is being read. -/
  | object (done : List OpenMember) (key : Option String)

/-- **Parser state**: what may come next. -/
inductive State where
  /-- A value. -/
  | value (stack : List Frame)
  /-- A value or the end of the array just opened. -/
  | firstItem (stack : List Frame)
  /-- A key or the end of the object just opened. -/
  | firstKey (stack : List Frame)
  /-- A key. -/
  | key (stack : List Frame) (done : List OpenMember)
  /-- The colon after a key. -/
  | colon (stack : List Frame) (done : List OpenMember) (key : Option String)
  /-- Whatever may follow the value just completed. -/
  | after (stack : List Frame) (v : Json)

/-- The object with some members, given last one first. All keys must be texts. -/
def objectOf (members : List OpenMember) : Json :=
  match members.reverse.mapM fun (key, v) => key.map fun key => (key, v) with
  | some members => .object members
  | none => .unreadable

/-- Reads a token where a value must stand. -/
def beginValue (stack : List Frame) : Token → Option State
  | .null => some (.after stack .null)
  | .bool b => some (.after stack (.bool b))
  | .number n => some (.after stack (.number n))
  | .string (some s) => some (.after stack (.string s))
  | .string none => some (.after stack .unreadable)
  | .openArray => some (.firstItem stack)
  | .openObject => some (.firstKey stack)
  | .closeArray | .closeObject | .comma | .colon => none

/-- **Parser step**: reads one token. -/
def advance : State → Token → Option State
  | .value stack, t => beginValue stack t
  | .firstItem stack, .closeArray => some (.after stack (.array []))
  | .firstItem stack, t => beginValue (.array [] :: stack) t
  | .firstKey stack, .closeObject => some (.after stack (.object []))
  | .firstKey stack, .string k => some (.colon stack [] k)
  | .firstKey _, _ => none
  | .key stack done, .string k => some (.colon stack done k)
  | .key _ _, _ => none
  | .colon stack done k, .colon => some (.value (.object done k :: stack))
  | .colon _ _ _, _ => none
  | .after (.array done :: stack) v, .comma => some (.value (.array (v :: done) :: stack))
  | .after (.array done :: stack) v, .closeArray =>
    some (.after stack (.array (v :: done).reverse))
  | .after (.object done k :: stack) v, .comma => some (.key stack ((k, v) :: done))
  | .after (.object done k :: stack) v, .closeObject =>
    some (.after stack (objectOf ((k, v) :: done)))
  | .after _ _, _ => none

/-- The value of a list of tokens. -/
def ofTokens? (tokens : List Token) : Option Json := do
  match ← tokens.foldlM advance (.value []) with
  | .after [] v => return v
  | _ => none

/-- The value that a text has the form of. -/
def scan? (text : List Char) : Option Json := do
  ofTokens? (← tokens? text)

/-- **Value** of a text. -/
def parse? (text : List Char) : Option Json :=
  (scan? text).filter (isSound maxNesting)

end MapAudit.Json
