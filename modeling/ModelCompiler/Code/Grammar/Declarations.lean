import ModelCompiler.Code.Grammar.Expressions

/-! # Reading declarations -/

namespace ModelCompiler.Code

namespace Rules

/-- An import: perhaps a name or a dot, and a path. -/
def importSpec : Read Spec := do
  let t ← Read.token
  let name? ← if t.kind = .name then some <$> Read.name
    else if t.isMark "." then do
      Read.skip
      pure (some { start := t.start, text := t.text })
    else pure none
  let path ← Read.token
  if path.kind = .text then Read.skip
  else if path.kind = .name ∨ path.isLiteral then
    Read.report path.start "import path must be a string"
    Read.skip
  else
    Read.report path.start "missing import path; require quoted string"
    Read.resumeAt Read.expressionEnds (← Read.bound)
  let comment? ← Read.expectEnd
  return .imported name?
    { start := path.start, stop := path.stop, form := .literal .text path.text } none comment?

def values (r : Rules) : Read (List Expr) := do
  if ← Read.accept "=" then r.operations else return []

def constantSpec (r : Rules) : Read Spec := do
  let names ← Read.names
  let (type?, values) ← if (← Read.atAny [";", ")"]) || (← Read.atKind .ending) then
      pure (none, [])
    else do
      let type? ← r.type?
      pure (type?, ← r.values)
  let comment? ← Read.expectEnd
  return .values names type? values comment?.isSome

def variableSpec (r : Rules) : Read Spec := do
  let names ← Read.names
  let type? ← if ← Read.at? "=" then pure none else some <$> r.type
  let values ← r.values
  let comment? ← Read.expectEnd
  return .values names type? values comment?.isSome

/-! ## Types -/

/-- Whether an expression can only be a type. -/
def isTypeElement : Nat → Expr → Bool
  | 0, _ => false
  | fuel + 1, x => match x.form with
    | .array .. | .record _ | .signature _ | .contract _ | .table .. | .channel .. => true
    | .binary left _ _ right => isTypeElement fuel left || isTypeElement fuel right
    | .unary op _ => op == "~"
    | .parens inner => isTypeElement fuel inner
    | _ => false

/-- The name of a parameter and its type, if an expression can be taken for the two; `force` says
that it has to be. -/
def splitParameter : Nat → Bool → Expr → Option (Name × Option Expr)
  | 0, _, _ => none
  | fuel + 1, force, x => match x.form with
    | .name text => some ({ start := x.start, text }, none)
    | .binary { start, form := .name text, .. } place "*" right =>
      if force || isTypeElement fuel right then
        some ({ start, text },
          some { start := place, stop := right.stop, form := .star right })
      else none
    | .binary left place "|" right => do
      let (n, left?) ← splitParameter fuel (force || isTypeElement fuel right) left
      let left ← left?
      some (n, some
        { start := left.start, stop := right.stop, form := .binary left place "|" right })
    | .call { start, form := .name text, .. } opening [inner] none =>
      if force || isTypeElement fuel inner then
        some ({ start, text },
          some { start := opening, stop := x.stop, form := .parens inner })
      else none
    | _ => none

/-- What follows the name of a type and an opening bracket: parameters or the length of an array. -/
def bracketedType (r : Rules) (opening : Nat) : Read (Option Fields × Bool × Expr) := do
  if ← Read.atKind .name then
    let n ← Read.name
    let x ← if ← Read.at? "[" then pure n.toExpr
      else Read.nested do
        let x ← r.primary (some n.toExpr)
        r.binaryBody (some x) 1
    match splitParameter (← Read.bound) (← Read.at? ",") x with
    | some (n, type?) =>
      if type?.isSome || !(← Read.at? "]") then
        let list ← r.parameterList "]" false (some { name? := some n, type? })
        let closing ← Read.expect "]"
        let synonym ← Read.accept "="
        let fields : Fields := { opening? := some opening, list, closing? := some closing }
        return (some fields, synonym, ← r.type)
      else return (none, false, ← r.array opening (some x))
    | none => return (none, false, ← r.array opening (some x))
  else return (none, false, ← r.array opening none)

def typeSpec (r : Rules) : Read Spec := do
  let name ← Read.name
  let opening ← Read.here
  let (types?, synonym, type) ← if ← Read.accept "[" then r.bracketedType opening
    else do
      let synonym ← Read.accept "="
      pure (none, synonym, ← r.type)
  let comment? ← Read.expectEnd
  return .defined name types? synonym type comment?.isSome

/-! ## Declarations -/

/-- The declarations that a word begins, in parentheses if there is more than one. -/
def group (spec : Read Spec) : Read Decl := do
  let s ← get
  Read.skip
  let word := String.ofList s.token.text
  let documented := s.lead?.isSome
  if ← Read.at? "(" then
    let opening ← Read.expect "("
    let specs ← Read.many (return !(← Read.at? ")") && !(← Read.atKind .ending)) spec
    let closing ← Read.expect ")"
    let _ ← Read.expectEnd
    return .group s.token.start word (some opening) specs (some closing) documented
  else return .group s.token.start word none [← spec] none documented

def functionDeclaration (r : Rules) : Read Decl := do
  let documented := (← get).lead?.isSome
  let start ← Read.expect "func"
  let receiver? ← if ← Read.at? "(" then some <$> r.parameters true else pure none
  let name ← Read.name
  let types? ← r.typeParameters?
  let s ← r.signature
  let type := { s with types? }
  if ← Read.at? "\x7b" then
    let body ← r.block
    let _ ← Read.expectEnd
    return .function start receiver? name type (some body) documented
  else if ← Read.accept ";" then
    if ← Read.at? "\x7b" then
      Read.report (← Read.here) "unexpected semicolon or newline before \x7b"
      let body ← r.block
      let _ ← Read.expectEnd
      return .function start receiver? name type (some body) documented
    return .function start receiver? name type none documented
  else
    let _ ← Read.expectEnd
    return .function start receiver? name type none documented

/-- A declaration, if one begins here. -/
def declaration? (r : Rules) : Read (Option Decl) := do
  let t ← Read.token
  if t.isMark "import" then some <$> group importSpec
  else if t.isMark "const" then some <$> group r.constantSpec
  else if t.isMark "var" then some <$> group r.variableSpec
  else if t.isMark "type" then some <$> group r.typeSpec
  else if t.isMark "func" then some <$> r.functionDeclaration
  else return none

end Rules

end ModelCompiler.Code
