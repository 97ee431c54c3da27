import ModelCompiler.Code.Grammar.Types

/-! # Reading expressions -/

namespace ModelCompiler.Code

namespace Rules

/-- Statements up to the end of their block or to the next case. -/
def statements (r : Rules) : Read (List Stmt) :=
  Read.many (return !(← Read.atAny ["case", "default", "\x7d"]) && !(← Read.atKind .ending))
    r.statement

def block (r : Rules) : Read Block := do
  let opening ← Read.expect "\x7b"
  let list ← r.statements
  let closing ← Read.expect "\x7d"
  return { opening, list, closing }

/-- The type of a function, or a function if a body follows. -/
def function (r : Rules) : Read Expr := do
  let (start, type) ← r.functionType
  if ← Read.at? "\x7b" then
    let body ← Read.nested r.block
    return { start, stop := body.closing + 1, form := .function type body }
  else return { start, stop := type.stop, form := .signature type }

def operand (r : Rules) : Read Expr := do
  let t ← Read.token
  if t.kind = .name then return (← Read.name).toExpr
  else if t.isLiteral then
    Read.skip
    return { start := t.start, stop := t.stop, form := .literal t.kind t.text }
  else if t.isMark "(" then
    Read.skip
    let inner ← Read.nested r.operation
    let closing ← Read.expect ")"
    return { start := t.start, stop := closing + 1, form := .parens inner }
  else if t.isMark "func" then r.function
  else match ← r.typeBody? with
    | some type => return type
    | none => Read.missing "operand" Read.statementWords

/-! ## What follows an operand -/

/-- A list in braces after a type, which may be known from what is around it. -/
def composite (r : Rules) (type? : Option Expr) : Read Expr := Read.inside do
  let opening ← Read.expect "\x7b"
  let bound ← Read.bound
  let what := "composite literal"
  let items ← Read.nested (Read.listUntil "\x7d" what r.item bound)
  let closing ← Read.expectClosing "\x7d" what
  return { start := (type?.map (·.start)).getD opening, stop := closing + 1,
           form := .composite type? opening items }

def assertion (r : Rules) (base : Expr) : Read Expr := do
  let opening ← Read.expect "("
  let type? ← if ← Read.accept "type" then pure none else some <$> r.type
  let closing ← Read.expect ")"
  return { start := base.start, stop := closing + 1, form := .assertion base opening type? }

/-- The bounds of a slice after the first, each with its colon; `count` may follow. -/
def moreBounds (r : Rules) : Nat → Read (List (Nat × Option Expr))
  | 0 => return []
  | count + 1 => do
    let colon ← Read.here
    if ← Read.accept ":" then
      let isOpen := (← Read.atAny [":", "]"]) || (← Read.atKind .ending)
      let x? ← if isOpen then pure none else some <$> r.operation
      return (colon, x?) :: (← moreBounds r count)
    else return []

/-- Notes that bounds of a slice are left out where they may not be. -/
def checkBounds : List (Nat × Option Expr) → Read Unit
  | [(first, middle?), (second, last?)] => do
    if middle?.isNone then Read.report first "middle index required in 3-index slice"
    if last?.isNone then Read.report second "final index required in 3-index slice"
  | _ => return

/-- The types after the first of some in brackets. -/
def moreTypes (r : Rules) : Read (List Expr) := do
  let types ← Read.many (Read.accept ",") do
    if (← Read.at? "]") || (← Read.atKind .ending) then return none else return some (← r.type)
  return types.filterMap id

/-- An index, types for parameters, or the bounds of a slice. -/
def indexOrSlice (r : Rules) (base : Expr) : Read Expr := do
  let opening ← Read.expect "["
  if ← Read.at? "]" then
    let closing ← Read.here
    Read.reportMissing closing "operand"
    Read.skip
    return { start := base.start, stop := closing + 1, form := .index base opening [] }
  let (first?, bounds, types) ← Read.nested do
    let first? ← if ← Read.at? ":" then pure none else some <$> r.operation
    if ← Read.at? ":" then return (first?, ← r.moreBounds 2, [])
    else return (first?, [], ← r.moreTypes)
  let closing ← Read.expect "]"
  checkBounds bounds
  let form := if bounds.isEmpty then .index base opening (first?.toList ++ types)
    else .slice base opening (first? :: bounds.map (·.2))
  return { start := base.start, stop := closing + 1, form }

/-- The arguments of a call, and where the dots after the last of them stand. -/
def arguments (r : Rules) : Nat → Read (List Expr × Option Nat)
  | 0 => Read.stop
  | fuel + 1 => do
    if (← Read.at? ")") || (← Read.atKind .ending) then return ([], none)
    let x ← r.operation
    let place ← Read.here
    let dots ← Read.accept "..."
    let more ← Read.atComma ")" "argument list"
    if more then Read.skip
    if dots then return ([x], some place)
    else if more then
      let (xs, dots?) ← arguments r fuel
      return (x :: xs, dots?)
    else return ([x], none)

def call (r : Rules) (base : Expr) : Read Expr := do
  let opening ← Read.expect "("
  let bound ← Read.bound
  let (xs, dots?) ← Read.nested (r.arguments bound)
  let closing ← Read.expectClosing ")" "argument list"
  return { start := base.start, stop := closing + 1, form := .call base opening xs dots? }

/-- What stands inside parentheses. -/
def unparenthesized : Nat → Expr → Expr
  | fuel + 1, { form := .parens inner, .. } => unparenthesized fuel inner
  | _, x => x

/-- Whether a brace after an expression begins the items of a list. -/
def takesItems (level : Int) (x : Expr) : Bool :=
  match x.form with
  | .missing | .name _ | .selector _ _ | .index _ _ _ => 0 ≤ level
  | .array _ _ | .record _ | .table _ _ => true
  | _ => false

def isParens (x : Expr) : Bool := match x.form with
  | .parens _ => true
  | _ => false

/-- What follows a dot: a name, or the type of a value. -/
def afterDot (r : Rules) (base : Expr) : Read Expr := do
  let t ← Read.token
  if t.isMark "(" then r.assertion base
  else if t.kind = .name then
    let n ← Read.name
    return { start := base.start, stop := n.stop, form := .selector base n }
  else
    Read.reportMissing t.start "selector or type assertion"
    if !t.isMark "\x7d" then Read.skip
    let n : Name := { start := t.start, text := ['_'] }
    return { start := base.start, stop := n.stop, form := .selector base n }

/-- All that follows an operand. -/
def suffixes (r : Rules) : Nat → Expr → Read Expr
  | 0, _ => Read.stop
  | fuel + 1, x => do
    Read.enter
    let t ← Read.token
    if t.isMark "." then
      Read.skip
      suffixes r fuel (← r.afterDot x)
    else if t.isMark "[" then suffixes r fuel (← r.indexOrSlice x)
    else if t.isMark "(" then suffixes r fuel (← r.call x)
    else if t.isMark "\x7b" then
      let inner := unparenthesized fuel x
      if takesItems (← get).level inner then
        if isParens x then
          Read.report inner.start "cannot parenthesize type in composite literal"
        suffixes r fuel (← r.composite (some x))
      else return x
    else return x

def primary (r : Rules) (first? : Option Expr) : Read Expr := do
  let bound ← Read.bound
  let x ← match first? with
    | some x => pure x
    | none => r.operand
  Read.leaving (r.suffixes bound x)

/-! ## Operators -/

/-- What is wrong where an arrow stands before the type of a channel. -/
inductive ArrowFault where
  /-- The arrow at an offset stands before another one. -/
  | doubled (place : Nat)
  /-- Nothing that can be received from follows the arrow at an offset. -/
  | dangling (place : Nat)

/-- The channel from which is received, if an arrow stands before the type of a channel, and the
faults of that. -/
def received : Nat → Nat → Expr → Expr × List ArrowFault
  | 0, arrow, x => (x, [.dangling arrow])
  | fuel + 1, arrow, x => match x.form with
    | .channel arrow? direction element =>
      let inner := arrow?.getD arrow
      let (element, faults) :=
        if direction = .send then received fuel inner element else (element, [])
      let faults := if direction = .receive then .doubled inner :: faults else faults
      ({ x with start := arrow, form := .channel (some arrow) .receive element }, faults)
    | _ => (x, [.dangling arrow])

def isChannel (x : Expr) : Bool := match x.form with
  | .channel .. => true
  | _ => false

def reportArrow : ArrowFault → Read Unit
  | .doubled place => Read.reportMissing place "'chan'"
  | .dangling place => Read.reportMissing place "channel type"

def unaryBody (r : Rules) : Read Expr := Read.inside do
  let t ← Read.token
  if t.isAnyMark ["+", "-", "!", "^", "&", "~"] then
    Read.skip
    let x ← r.unary
    return { start := t.start, stop := x.stop, form := .unary (String.ofList t.text) x }
  else if t.isMark "<-" then
    Read.skip
    let x ← r.unary
    if isChannel x then
      let (x, faults) := received (← Read.bound) t.start x
      faults.forM reportArrow
      return x
    else return { start := t.start, stop := x.stop, form := .unary "<-" x }
  else if t.isMark "*" then
    Read.skip
    let x ← r.unary
    return { start := t.start, stop := x.stop, form := .star x }
  else r.primary none

/-- The operator that a token is, where an equals sign may be meant for a comparison. -/
def operator (t : Token) : Read String := do
  if t.isMark "=" && (← get).compares then return "==" else return String.ofList t.text

/-- The operators after an operand that bind at least as tightly as given. -/
def operators (r : Rules) (least : Nat) : Nat → Expr → Read Expr
  | 0, _ => Read.stop
  | fuel + 1, x => do
    Read.enter
    let t ← Read.token
    let op ← operator t
    if t.kind = .sign ∧ 0 < precedence op ∧ least ≤ precedence op then
      let place ← Read.expect op
      let y ← r.binary none (precedence op + 1)
      operators r least fuel
        { start := x.start, stop := y.stop, form := .binary x place op y }
    else return x

def binaryBody (r : Rules) (first? : Option Expr) (least : Nat) : Read Expr := do
  let x ← match first? with
    | some x => pure x
    | none => r.unaryBody
  let bound ← Read.bound
  Read.leaving (r.operators least bound x)

/-- A value in a list, the type of which may be left out. -/
def value (r : Rules) : Read Expr := do
  if ← Read.at? "\x7b" then r.composite none else r.expression

def itemBody (r : Rules) : Read Expr := do
  let key ← r.value
  let colon ← Read.here
  if ← Read.accept ":" then
    let value ← r.value
    return { start := key.start, stop := value.stop, form := .pair key colon value }
  else return key

end Rules

end ModelCompiler.Code
