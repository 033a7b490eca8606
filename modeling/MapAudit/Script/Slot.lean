import MapAudit.Script.Arithmetic
import MapAudit.Script.Shell

/-! # Slots of texts

    A text has its slot in a variable: it is the variable's own, or that of one of
    its elements. Elements are known by numbers or by names. The number of an element
    is the value of an expression, in which variables may have values that are
    expressions themselves.
-/

namespace MapAudit.Script

/-- **Key**: what an element of a variable is known by. -/
inductive Key where
  /-- Its number. Negative ones count from the end. -/
  | number (i : Int)
  /-- Its name. -/
  | name (r : Raw)
  deriving DecidableEq, Repr

/-- **Slot** of a text: a variable, or an element of one. -/
structure Slot where
  /-- The name of the variable. -/
  name : Raw
  /-- What the element is known by. -/
  key : Option Key
  deriving DecidableEq, Repr

namespace Slot

/-- A slot as it is written. -/
def text (p : Slot) : Raw :=
  match p.key with
  | none => p.name
  | some (.number i) => p.name ++ '[' :: Raw.ofInt i ++ [']']
  | some (.name r) => p.name ++ '[' :: r ++ [']']

/-- The name of a variable and the text of an index that a text says. -/
def split? (r : Raw) : Option (Raw × Raw) :=
  let name := r.takeWhile Reader.inName
  match r.drop name.length with
  | '[' :: rest =>
    if Reader.isName name && rest.getLast? = some ']' then some (name, rest.dropLast) else none
  | _ => none

end Slot

namespace Procedure

/-- The number of an element among numbered ones, of which negative numbers count from
    the end. -/
def fromStart (elements : List (Nat × Raw)) (i : Int) : Int :=
  if i < 0 then elements.foldl (fun n (k, _) => max n (k + 1 : Int)) 0 + i else i

/-- The text at a slot. -/
def textAt? (p : Slot) : Procedure (Option Raw) := do
  match p.key, ← lookUp? p.name with
  | _, none => return none
  | none, some v => return v.text?
  | some (.name r), some { value := .table elements, .. } => return elements.lookup r
  | some (.name _), some _ => return none
  | some (.number i), some { value := .table elements, .. } => return elements.lookup (Raw.ofInt i)
  | some (.number i), some { value := .list elements, .. } =>
    let n := fromStart elements i
    if n < 0 then
      warn (p.name ++ ": bad array subscript")
      return none
    return elements.lookup n.toNat
  | some (.number i), some v => return if i = 0 || i = -1 then v.text? else none

/-- Gives a slot a text. -/
def setAt (p : Slot) (r : Raw) : Procedure Unit := do
  match p.key with
  | none => setVariable p.name r
  | some key => do
    let v := (← lookUp? p.name).getD .blank
    let r := match v.recasing with
      | some recasing => recase recasing r
      | none => r
    match key, v.value with
    | .name k, .table elements => setValue p.name (.table (Value.putNamed k r elements))
    | .number i, .table elements =>
      setValue p.name (.table (Value.putNamed (Raw.ofInt i) r elements))
    | .name _, _ => return ()
    | .number i, value =>
      let elements := match value with
        | .list elements => elements
        | .text t => [(0, t)]
        | _ => []
      let n := fromStart elements i
      if n < 0 then
        warn (p.text ++ ": bad array subscript")
        throw (.discard 1)
      setValue p.name (.list (Value.putNumbered n.toNat r elements))

/-- Takes the text at a slot away. -/
def unsetAt (p : Slot) : Procedure Unit := do
  match p.key, ← lookUp? p.name with
  | none, _ => unsetVariable p.name
  | some (.number i), some { value := .list elements, .. } =>
    let n := fromStart elements i
    if n < 0 then warn (p.text ++ ": bad array subscript")
    else setValue p.name (.list (elements.filter fun (k, _) => (k : Int) ≠ n))
  | some (.name r), some { value := .table elements, .. } =>
    setValue p.name (.table (elements.filter (·.1 ≠ r)))
  | _, _ => return ()

/-! ## Numbers -/

/-- Complains about an expression, and points at a part of it, in the richer dialect. -/
def refusePointing {α : Type} (r : Raw) (said : String) (pointed : Raw) : Procedure α := do
  let shown := r.dropWhile fun c => c == ' ' || c == '\t'
  warn (shown ++ ": " ++ said ++ " (error token is \"" ++ pointed ++ "\")")
  throw (.discard 1)

/-- Does something in the name of a command that computes. -/
def computingAs {α : Type} (name : Raw) (p : Procedure α) : Procedure α := do
  let before := (← get).builtin
  modify fun s => { s with builtin := some name }
  let restore : Procedure Unit := modify fun s => { s with builtin := before }
  let a ← tryCatch p fun stop => do
    restore
    throw stop
  restore
  return a

/-- Complains about an expression with a fault in it. -/
def refuseExpression {α : Type} (r : Raw) (fault : ExpressionFault) : Procedure α := do
  match (← get).dialect with
  | .sh =>
    let expected := match fault.cause with
      | .tooLong | .unknownOperator | .noVariable => "expecting EOF"
      | .parenthesis => "expecting ')'"
      | .colon => "expecting ':'"
      | _ => "expecting primary"
    refuse ("arithmetic expression: " ++ expected ++ ": \"" ++ r ++ "\"")
  | .bash => do
    let said := match fault.cause with
      | .operand => "syntax error: operand expected"
      | .tooLong => "syntax error in expression"
      | .parenthesis => "missing \x60)'"
      | .colon => "\x60:' expected for conditional expression"
      | .lastPart => "expression expected"
      | .unknownOperator => "syntax error: invalid arithmetic operator"
      | .noVariable => "attempted assignment to non-variable"
      | .badDigit => "value too great for base"
      | .badBase => "invalid arithmetic base"
      | .badNumber => "invalid number"
      | .noDigits => "invalid integer constant"
      | .badIndex => "bad array subscript"
    let shown := r.take (r.length - fault.badLength.getD 0)
    refusePointing shown said fault.rest

/-- Complains about an operator that has no value. -/
def refuseValue {α : Type} (r : Raw) (o : Operation) (pointed : Raw) : Procedure α := do
  match (← get).dialect with
  | .sh => refuse ("arithmetic expression: division by zero: \"" ++ r ++ "\"")
  | .bash =>
    refusePointing r (if o = .power then "exponent less than 0" else "division by 0") pointed

/-- The number that the value of a variable is, if it is written as one. -/
def plainNumber? (r : Raw) : Option Int :=
  let trimmed := (r.dropWhile Expression.isBlank).reverse.dropWhile Expression.isBlank |>.reverse
  let (sign, body) : Int × Raw := match trimmed with
    | '-' :: body => (-1, body)
    | '+' :: body => (1, body)
    | body => (1, body)
  if body.head?.any Char.isDigit then
    let (n, rest) := Expression.plainNumber body
    if rest.isEmpty then some (sign * n) else none
  else if trimmed.isEmpty then some 0 else none

/-- The slot of an element whose index is computed by `number`, unless it is a
    name. -/
def slotBy (number : Raw → Procedure Int) (name index : Raw) : Procedure Slot := do
  match ← lookUp? name with
  | some { value := .table _, .. } => return { name, key := some (.name index) }
  | _ => return { name, key := some (.number (← number index)) }

/-- The value of an expression. The values of variables may be expressions
    themselves, at most `n` deep, in the richer dialect. -/
def computeUpTo : (n : Nat) → Raw → Procedure Int
  | 0, r => do
    warn (r ++ ": expression recursion level exceeded (error token is \"" ++ r ++ "\")")
    throw (.discard 1)
  | n + 1, r => do
    let d := (← get).dialect
    match Expression.read d r with
    | .error fault => refuseExpression r fault
    | .ok e =>
      e.compute {
        place := fun name index => match index with
          | none => return { name, key := none }
          | some index => slotBy (computeUpTo n) name index
        value := fun slot => do
          drawFor slot.name
          match ← textAt? slot with
          | none =>
            if d = .bash && (← hasOption 'u') then
              warn (slot.text ++ ": unbound variable")
              throw (.fault 1)
            return 0
          | some t =>
            match d, plainNumber? t with
            | .sh, some k => return k
            | .sh, none => refuse ("Illegal number: " ++ t)
            | .bash, _ => if t.isEmpty then return 0 else computeUpTo n t
        assign := fun slot k => setAt slot (Raw.ofInt k)
        noValue := refuseValue r }

/-- The value of an expression. -/
def computeText (r : Raw) : Procedure Int :=
  computeUpTo 100 r

/-- The slot of an element with an index. -/
def slotAt (name index : Raw) : Procedure Slot :=
  slotBy computeText name index

/-- The slot that a text says. -/
def slotOf (r : Raw) : Procedure Slot := do
  match Slot.split? r with
  | some (name, index) => slotAt name index
  | none => return { name := r, key := none }

/-- Whether a text says a slot. -/
def isSlotName (r : Raw) : Bool :=
  Reader.isName r || (Slot.split? r).isSome

/-- Gives a slot a text, which is computed first if the variable is a number. The
    text may be added to what is there. -/
def assignAt (p : Slot) (adds : Bool) (r : Raw) : Procedure Unit := do
  let old ← if adds then pure ((← textAt? p).getD []) else pure []
  match ← lookUp? p.name with
  | some { isNumber := true, .. } => do
    let n ← computeText r
    let before ← computeText old
    setAt p (Raw.ofInt (Expression.wrap (before + n)))
  | _ => setAt p (old ++ r)

end Procedure

end MapAudit.Script
