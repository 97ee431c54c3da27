import ModelCompiler.Code.Grammar.Declarations

/-! # Reading statements -/

namespace ModelCompiler.Code

namespace Rules

/-- What goes through the items of something: the variables that it sets, how it sets them, and the
thing. -/
structure Range where
  targets : List Expr := []
  place : Nat := 0
  op : String := ""
  value : Expr

/-- A statement without a body, or the head of an iteration. -/
inductive Simple where
  | statement (s : Stmt)
  | range (r : Range)

def assignments : List String :=
  [":=", "=", "+=", "-=", "*=", "/=", "%=", "&=", "|=", "^=", "<<=", ">>=", "&^="]

/-- A statement without a body, where `labels` and `ranges` say whether it may be a label or the
head of an iteration. -/
def simple (r : Rules) (labels ranges : Bool) : Read Simple := do
  let left ← r.targets
  let t ← Read.token
  let op := String.ofList t.text
  if t.isAnyMark assignments then
    Read.skip
    if ranges && t.isAnyMark [":=", "="] && (← Read.at? "range") then
      Read.skip
      return .range { targets := left, place := t.start, op, value := ← r.operation }
    else return .statement (.assign left t.start op (← r.operations))
  else
    let x := left.headD { start := t.start, stop := t.start, form := .missing }
    if 1 < left.length then Read.reportMissing x.start "1 expression"
    if t.isMark ":" then
      Read.skip
      match labels, x.form with
      | true, .name text =>
        return .statement (.labeled { start := x.start, text } t.start (← r.statement))
      | _, _ =>
        Read.report t.start "illegal label declaration"
        return .statement (.missing x.start)
    else if t.isMark "<-" then
      Read.skip
      return .statement (.send x t.start (← r.operation))
    else if t.isAnyMark ["++", "--"] then
      Read.skip
      return .statement (.step x t.start op)
    else return .statement (.expression x)

def plain (r : Rules) : Read Stmt := do
  match ← r.simple false false with
  | .statement s => return s
  | .range range => return .expression range.value

/-- The expression that a statement consists of. -/
def asExpression (what : String) : Stmt → Read Expr
  | .expression x => return x
  | s => do
    let found := match s with
      | .assign .. => "assignment"
      | _ => "simple statement"
    Read.report s.start ("expected " ++ what ++ ", found " ++ found ++
      " (missing parentheses around composite literal?)")
    return { start := s.start, stop := s.start, form := .missing }

def launch (r : Rules) : Read Stmt := do
  let t ← Read.token
  let word := String.ofList t.text
  Read.skip
  let x ← r.operation
  if isParens x then
    Read.report x.start ("expression in " ++ word ++ " must not be parenthesized")
  let call? ← match (unparenthesized (← Read.bound) x).form with
    | .call .. => pure true
    | .missing => pure false
    | _ => do
      let stop := (unparenthesized (← Read.bound) x).stop
      Read.report stop ("expression in " ++ word ++ " must be function call")
      pure false
  let _ ← Read.expectEnd
  if call? then return .launch t.start word x else return .missing t.start

def result (r : Rules) : Read Stmt := do
  let start ← Read.expect "return"
  let values ← if ← Read.atAny [";", "\x7d"] then pure [] else r.operations
  let _ ← Read.expectEnd
  return .result start values

def jump : Read Stmt := do
  let t ← Read.token
  Read.skip
  let labeled := t.isMark "goto" || (t.isAnyMark ["break", "continue"] && (← Read.atKind .name))
  let label? ← if labeled then some <$> Read.name else pure none
  let _ ← Read.expectEnd
  return .jump t.start (String.ofList t.text) label?

/-! ## Conditions -/

/-- The condition after a semicolon. -/
def conditionAfter (r : Rules) (semicolon? : Option Token) : Read Expr := do
  if ← Read.at? "\x7b" then
    let place ← Read.here
    match semicolon? with
    | some t =>
      Read.report t.start (if t.implied then "unexpected newline, expecting \x7b after if clause"
        else "missing condition in if statement")
    | none => pure ()
    return { start := place, stop := place, form := .missing }
  else asExpression "boolean expression" (← r.plain)

/-- The statement before a condition, and the condition. -/
def conditionHead (r : Rules) : Read (Option Stmt × Expr) := do
  let place ← Read.here
  if ← Read.at? "\x7b" then
    Read.report place "missing condition in if statement"
    return (none, { start := place, stop := place, form := .missing })
  Read.inHead do
    let first? ← if ← Read.at? ";" then pure none else do
      if ← Read.accept "var" then
        Read.report (← Read.here) "var declaration not allowed in if initializer"
      some <$> r.plain
    match first?, ← Read.at? "\x7b" with
    | some s, true => return (none, ← asExpression "boolean expression" s)
    | _, _ =>
      let t ← Read.token
      let _ ← Read.expect ";"
      return (first?, ← r.conditionAfter (if t.isMark ";" then some t else none))

/-- A condition with its body, and with what is done otherwise. -/
def conditional (r : Rules) : Read Stmt := Read.inside do
  let start ← Read.expect "if"
  let (first?, test) ← r.conditionHead
  let body ← r.block
  if ← Read.accept "else" then
    if ← Read.at? "if" then
      return .condition start first? test body (some (← r.statement))
    else if ← Read.at? "\x7b" then
      let otherwise ← r.block
      let _ ← Read.expectEnd
      return .condition start first? test body (some (.block otherwise))
    else
      let place ← Read.here
      Read.reportMissing place "if statement or block"
      return .condition start first? test body (some (.missing place))
  else
    let _ ← Read.expectEnd
    return .condition start first? test body none

/-! ## Choices -/

def branch (r : Rules) : Read Stmt := do
  let start ← Read.here
  let values? ← if ← Read.accept "case" then some <$> r.operations
    else do
      let _ ← Read.expect "default"
      pure none
  let colon ← Read.expect ":"
  return .branch start values? colon (← r.statements)

def cases (branch : Read Stmt) : Read Block := do
  let opening ← Read.expect "\x7b"
  let list ← Read.many (Read.atAny ["case", "default"]) branch
  let closing ← Read.expect "\x7d"
  let _ ← Read.expectEnd
  return { opening, list, closing }

def asksType (x : Expr) : Bool := match x.form with
  | .assertion _ _ none => true
  | _ => false

/-- Whether the cases of a choice are types. -/
def isTypeGuard : Option Stmt → Read Bool
  | some (.expression x) => return asksType x
  | some (.assign [_] place op [x]) => do
    if !asksType x then return false
    if op = "=" then Read.report place "expected ':=', found '='"
    return op == "=" || op == ":="
  | _ => return false

def choice (r : Rules) : Read Stmt := do
  let start ← Read.expect "switch"
  let (first?, value?) ← if ← Read.at? "\x7b" then pure (none, none)
    else Read.inHead do
      let s? ← if ← Read.at? ";" then pure none else some <$> r.plain
      if ← Read.accept ";" then
        if ← Read.at? "\x7b" then return (s?, none) else return (s?, some (← r.plain))
      else return (none, s?)
  let asks ← isTypeGuard value?
  let body ← cases r.branch
  match value? with
  | some s =>
    if asks then return .typeChoice start first? s body
    else return .choice start first? (some (← asExpression "switch expression" s)) body
  | none => return .choice start first? none body

/-- What a case waits for. -/
def exchanged (r : Rules) : Read Stmt := do
  let left ← r.targets
  let t ← Read.token
  let x := left.headD { start := t.start, stop := t.start, form := .missing }
  if t.isMark "<-" then
    if 1 < left.length then Read.reportMissing x.start "1 expression"
    Read.skip
    return .send x t.start (← r.operation)
  else if t.isAnyMark ["=", ":="] then
    if 2 < left.length then Read.reportMissing x.start "1 or 2 expressions"
    Read.skip
    return .assign left t.start (String.ofList t.text) [← r.operation]
  else
    if 1 < left.length then Read.reportMissing x.start "1 expression"
    return .expression x

/-- A case that waits for something to be sent or received. -/
def exchange (r : Rules) : Read Stmt := do
  let start ← Read.here
  let first? ← if ← Read.accept "case" then some <$> r.exchanged
    else do
      let _ ← Read.expect "default"
      pure none
  let colon ← Read.expect ":"
  return .exchange start first? colon (← r.statements)

def selection (r : Rules) : Read Stmt := do
  let start ← Read.expect "select"
  return .selection start (← cases r.exchange)

/-! ## Loops -/

/-- The head of a loop. -/
inductive LoopHead where
  | steps (first? : Option Stmt) (test? : Option Stmt) (step? : Option Stmt)
  | range (r : Range)

def loopHead (r : Rules) : Read LoopHead := do
  if ← Read.accept "range" then return .range { value := ← r.operation }
  let s? ← if ← Read.at? ";" then pure none else some <$> r.simple false true
  match s? with
  | some (.range range) => return .range range
  | some (.statement s) =>
    if ← Read.at? ";" then steps (some s) else return .steps none (some s) none
  | none => steps none
where
  steps (first? : Option Stmt) : Read LoopHead := do
    Read.skip
    let test? ← if ← Read.at? ";" then pure none
      else if ← Read.at? "\x7b" then do
        Read.reportMissing (← Read.here) "for loop condition"
        pure none
      else some <$> r.plain
    let _ ← Read.expectEnd
    let step? ← if ← Read.at? "\x7b" then pure none else some <$> r.plain
    return .steps first? test? step?

def loop (r : Rules) : Read Stmt := do
  let start ← Read.expect "for"
  let head ← if ← Read.at? "\x7b" then pure (.steps none none none) else Read.inHead r.loopHead
  let body ← r.block
  let _ ← Read.expectEnd
  match head with
  | .range range =>
    match range.targets.getLast? with
    | some last =>
      if 2 < range.targets.length then Read.reportMissing last.start "at most 2 expressions"
    | none => pure ()
    return .iteration start range.targets range.place range.op range.value body
  | .steps first? test? step? =>
    let test? ← match test? with
      | some s => some <$> asExpression "boolean or range expression" s
      | none => pure none
    return .loop start first? test? step? body

/-! ## Statements -/

/-- The signs and words that a statement begins with if it begins with an expression. -/
def expressionStarts : List String :=
  ["func", "(", "[", "struct", "map", "chan", "interface", "+", "-", "*", "&", "^", "<-", "!"]

def isLabeled : Stmt → Bool
  | .labeled .. => true
  | _ => false

def statementBody (r : Rules) : Read Stmt := Read.inside do
  let t ← Read.token
  if t.isAnyMark ["const", "type", "var"] then
    match ← r.declaration? with
    | some d => return .declaration d
    | none => return .missing t.start
  else if t.kind = .name ∨ t.isLiteral ∨ t.isAnyMark expressionStarts then
    match ← r.simple true false with
    | .statement s =>
      if !isLabeled s then let _ ← Read.expectEnd
      return s
    | .range _ => return .missing t.start
  else if t.isAnyMark ["go", "defer"] then r.launch
  else if t.isMark "return" then r.result
  else if t.isAnyMark ["break", "continue", "goto", "fallthrough"] then jump
  else if t.isMark "\x7b" then
    let b ← r.block
    let _ ← Read.expectEnd
    return .block b
  else if t.isMark "if" then r.conditional
  else if t.isMark "switch" then r.choice
  else if t.isMark "select" then r.selection
  else if t.isMark "for" then r.loop
  else if t.isMark ";" then
    Read.skip
    return .empty t.start
  else if t.isMark "\x7d" then return .empty t.start
  else
    Read.recover "statement" Read.statementWords
    return .missing t.start

/-- The rules, given those for what is nested one level deeper. -/
def deeper (r : Rules) : Rules where
  type? := r.typeBody?
  unary := r.unaryBody
  binary := r.binaryBody
  item := r.itemBody
  statement := r.statementBody

/-- Rules by which nothing can be read. -/
def nothing : Rules where
  type? := Read.stop
  unary := Read.stop
  binary _ _ := Read.stop
  item := Read.stop
  statement := Read.stop

/-- The rules for what is nested at most as deep as given. -/
def upTo (depth : Nat) : Rules := depth.repeat deeper nothing

end Rules

end ModelCompiler.Code
