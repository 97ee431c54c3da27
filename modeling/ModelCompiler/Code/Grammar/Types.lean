import ModelCompiler.Code.Grammar.Basic

/-! # Reading types

The rules refer to each other, so each of them is given the others, as they are for what is nested
one level deeper. -/

namespace ModelCompiler.Code

/-- The rules for what can be nested. -/
structure Rules where
  /-- A type, if one comes next. -/
  type? : Read (Option Expr)
  unary : Read Expr
  /-- Operands that bind at least as tightly as given, the first of which may have been read. -/
  binary : Option Expr → Nat → Read Expr
  /-- An item of a list in braces. -/
  item : Read Expr
  statement : Read Stmt

namespace Rules

def type (r : Rules) : Read Expr := do
  match ← r.type? with
  | some t => return t
  | none => Read.missing "type" Read.expressionEnds

def expression (r : Rules) : Read Expr := r.binary none 1

/-- An expression in which an equals sign can only be meant for a comparison. -/
def operation (r : Rules) : Read Expr := Read.comparing true r.expression

/-- Expressions that something is assigned to, or that stand by themselves. -/
def targets (r : Rules) : Read (List Expr) :=
  Read.comparing false (Read.commaList r.expression)

def operations (r : Rules) : Read (List Expr) := Read.comparing true (Read.commaList r.expression)

/-- A name with the name of its package before it. -/
def qualified (first? : Option Name) : Read Expr := do
  let first ← match first? with
    | some n => pure n
    | none => Read.name
  if ← Read.accept "." then
    let n ← Read.name
    return { start := first.start, stop := n.stop, form := .selector first.toExpr n }
  else return first.toExpr

/-- A type with the types that it is given for its parameters. -/
def instantiated (r : Rules) (base : Expr) : Read Expr := do
  let opening ← Read.expect "["
  let bound ← Read.bound
  let types ← Read.nested (Read.listUntil "]" "type argument list" r.type bound)
  let closing ← Read.expectClosing "]" "type argument list"
  if types.isEmpty then Read.reportMissing closing "type argument list"
  return { start := base.start, stop := closing + 1, form := .index base opening types }

def qualifiedInstance (r : Rules) (first? : Option Name) : Read Expr := do
  let base ← qualified first?
  if ← Read.at? "[" then r.instantiated base else return base

/-- An array, the opening bracket of which has been read, and perhaps the length. -/
def array (r : Rules) (opening : Nat) (length? : Option Expr) : Read Expr := do
  let length? ← match length? with
    | some l => pure (some l)
    | none => Read.nested do
      let start ← Read.here
      if ← Read.accept "..." then
        return some { start, stop := start + 3, form := .dots none }
      else if ← Read.at? "]" then return none
      else return some (← r.operation)
  if ← Read.at? "," then
    Read.report (← Read.here) "unexpected comma; expecting ]"
    Read.skip
  let _ ← Read.expect "]"
  let element ← r.type
  return { start := opening, stop := element.stop, form := .array length? element }

/-- Expressions in brackets, and where the comma after the last of them stands. -/
def bracketed (r : Rules) : Nat → Read (List Expr × Option Nat)
  | 0 => Read.stop
  | fuel + 1 => do
    let x ← r.operation
    let place ← Read.here
    if ← Read.accept "," then
      if ← Read.at? "]" then return ([x], some place)
      let (xs, comma?) ← bracketed r fuel
      return (x :: xs, comma?)
    else return ([x], none)

/-- What stands in brackets after a name: an array that is the type of that name, or the types that
are given for the parameters of the type of that name. No comma follows the length of an array. -/
def arrayOrInstance (r : Rules) (n : Name) : Read (Option Name × Expr) := do
  let opening ← Read.expect "["
  let bound ← Read.bound
  let (items, comma?) ← if ← Read.at? "]" then pure ([], none) else Read.nested (r.bracketed bound)
  let closing ← Read.expect "]"
  match items with
  | [] =>
    let element ← r.type
    return (some n, { start := opening, stop := element.stop, form := .array none element })
  | items =>
    let element? ← if items.length = 1 then r.type? else pure none
    match element? with
    | some element =>
      if let some comma := comma? then Read.report comma "unexpected comma; expecting ]"
      return (some n,
        { start := opening, stop := element.stop, form := .array items.head? element })
    | none =>
      return (none,
        { start := n.start, stop := closing + 1, form := .index n.toExpr opening items })

/-! ## Fields -/

/-- A name or an instance, with a star before it if one comes next. -/
def pointed (r : Rules) : Read Expr := do
  let start ← Read.here
  if ← Read.accept "*" then
    let base ← r.qualifiedInstance none
    return { start, stop := base.stop, form := .star base }
  else r.qualifiedInstance none

/-- An embedded type in parentheses, which is a fault. -/
def parenthesized (embedded : Read Expr) : Read Expr := do
  Read.report (← Read.here) "cannot parenthesize embedded type"
  Read.skip
  let type ← embedded
  let _ ← Read.accept ")"
  return type

/-- The names and the type of a field, or an embedded type. -/
def fieldType (r : Rules) : Read (List Name × Expr) := do
  if ← Read.atKind .name then
    let n ← Read.name
    let t ← Read.token
    if t.isMark "." then return ([], ← r.qualifiedInstance (some n))
    else if t.kind = .text ∨ t.isAnyMark [";", "\x7d"] then return ([], n.toExpr)
    else
      let others ← Read.many (Read.accept ",") Read.name
      if others.isEmpty && (← Read.at? "[") then
        let (n?, type) ← r.arrayOrInstance n
        return (n?.toList, type)
      else return (n :: others, ← r.type)
  else if ← Read.at? "*" then
    let start ← Read.expect "*"
    let base ← if ← Read.at? "(" then parenthesized (r.qualifiedInstance none)
      else r.qualifiedInstance none
    return ([], { start, stop := base.stop, form := .star base })
  else if ← Read.at? "(" then return ([], ← parenthesized r.pointed)
  else return ([], ← Read.missing "field name or embedded type" Read.expressionEnds)

def field (r : Rules) : Read Field := do
  let (names, type) ← r.fieldType
  let t ← Read.token
  let tag? ← if t.kind = .text then do
      Read.skip
      pure (some { start := t.start, stop := t.stop, form := .literal .text t.text })
    else pure none
  let comment? ← Read.expectEnd
  return { names, type, tag?, remarked := comment?.isSome }

def record (r : Rules) : Read Expr := do
  let start ← Read.expect "struct"
  let opening ← Read.expect "\x7b"
  let more := do return (← Read.atKind .name) || (← Read.atAny ["*", "("])
  let list ← Read.many more r.field
  let closing ← Read.expect "\x7d"
  return { start, stop := closing + 1, form := .record ⟨some opening, list, some closing⟩ }

/-! ## Unions of types -/

def term (r : Rules) : Read Expr := do
  let start ← Read.here
  if ← Read.accept "~" then
    let type ← r.type
    return { start, stop := type.stop, form := .unary "~" type }
  else match ← r.type? with
    | some type => return type
    | none => Read.missing "~ term or type" Read.expressionEnds

/-- Types with bars between them, the first of which may have been read. -/
def unionOf (r : Rules) (first? : Option Expr) : Read Expr := do
  let first ← match first? with
    | some x => pure x
    | none => r.term
  let others ← Read.many (Read.at? "|") do
    let place ← Read.expect "|"
    return (place, ← r.term)
  return others.foldl (fun left (place, right) =>
    { start := left.start, stop := right.stop, form := .binary left place "|" right }) first

/-! ## Parameters -/

/-- A parameter of which the name, the type or both are written. -/
structure Parameter where
  name? : Option Name := none
  type? : Option Expr := none

def dotsType (r : Rules) : Read Expr := do
  let start ← Read.expect "..."
  let element ← r.type
  return { start, stop := element.stop, form := .dots (some element) }

/-- The signs and words that a type begins with. -/
def typeStarts : List String := ["*", "<-", "func", "chan", "map", "struct", "interface", "("]

/-- What follows the name of a parameter. -/
def afterName (r : Rules) (unions : Bool) (n : Name) : Read Parameter := do
  let t ← Read.token
  if t.isMark "[" then
    let (name?, type) ← r.arrayOrInstance n
    return { name?, type? := some type }
  else if t.isMark "." then return { type? := some (← r.qualifiedInstance (some n)) }
  else if unions && t.isMark "~" then
    return { name? := some n, type? := some (← r.unionOf none) }
  else if unions && t.isMark "|" then
    return { type? := some (← r.unionOf (some n.toExpr)) }
  else if t.kind = .name ∨ t.isAnyMark typeStarts then
    return { name? := some n, type? := some (← r.type) }
  else return { name? := some n }

/-- A parameter, where `unions` says whether its type may be a union. -/
def parameter (r : Rules) (unions : Bool) (first? : Option Name) : Read Parameter := do
  let t ← Read.token
  let isName := first?.isSome || t.kind == .name
  if !isName && unions && t.isMark "~" then return { type? := some (← r.unionOf none) }
  else if !isName && t.isMark "..." then return { type? := some (← r.dotsType) }
  else
    let p ← if isName then do
        let n ← match first? with
          | some n => pure n
          | none => Read.name
        if ← Read.at? "..." then
          return { name? := some n, type? := some (← r.dotsType) }
        r.afterName unions n
      else if t.isAnyMark ("[" :: typeStarts) then pure { type? := some (← r.type) }
      else do
        Read.recover "')'" Read.expressionEnds
        pure {}
    if unions && (← Read.at? "|") then
      match p.type? with
      | some type => return { p with type? := some (← r.unionOf (some type)) }
      | none => return p
    else return p

/-- The types of parameters, where one without a type has that of the next one with a type, and the
first place at which a name or a type is missing. -/
def distribute : List Parameter → List Expr × Option Nat
  | [] => ([], none)
  | p :: ps =>
    let (types, missing?) := distribute ps
    match p.type?, p.name?, types with
    | some type, some _, _ => (type :: types, missing?)
    | some type, none, _ => (type :: types, some type.start)
    | none, _, type :: _ => (type :: types, missing?)
    | none, some n, [] => ([{ start := n.start, stop := n.stop, form := .missing }], some n.start)
    | none, none, [] => ([], missing?)

/-- Joins the names that share a type, which are those without a type and the one after them. -/
def joinNames : List Parameter → List Name → List Field
  | [], _ => []
  | p :: ps, names =>
    let names := names ++ p.name?.toList
    match p.type? with
    | some type => { names, type, tag? := none, remarked := false } :: joinNames ps []
    | none => joinNames ps names

def isDots (x : Expr) : Bool := match x.form with
  | .dots _ => true
  | _ => false

/-- Notes the first dots that do not stand before the type of the last parameter, and those that do
unless `dots` holds. -/
def checkDots (dots : Bool) (types : List Expr) : Read Unit := do
  match (if dots then types.dropLast else types).find? isDots with
  | some type =>
    Read.report type.start
      (if dots then "can only use ... with final parameter" else "invalid use of ...")
  | none => return

/-- Notes that a parameter has no name or no type. If the `typed` ones are those with both, types
are missing before the closing bracket. -/
def reportParameter (unions : Bool) (count named typed place : Nat) : Read Unit := do
  if named = typed then
    Read.report (← Read.here)
      (if unions then "missing type constraint" else "missing parameter type")
  else if unions then
    Read.report place
      ("missing type parameter name" ++ if count = 1 then " or invalid array length" else "")
  else Read.report place "missing parameter name"

/-- The fields of parameters that begin at an offset: either all have names or none has. Names do
not share a type with dots. -/
def fieldsOf (unions dots : Bool) (start : Nat) (ps : List Parameter) : Read (List Field) := do
  let named := ps.countP fun p => p.name?.isSome && p.type?.isSome
  let typed := ps.countP fun p => p.type?.isSome
  if named = 0 then
    let types := ps.filterMap fun p => p.type?.or (p.name?.map Name.toExpr)
    if unions && !ps.isEmpty then reportParameter unions ps.length named typed start
    checkDots dots types
    return types.map fun type => { names := [], type, tag? := none, remarked := false }
  else
    let (types, missing?) := distribute ps
    if let some place := missing? then reportParameter unions ps.length named typed place
    checkDots dots types
    return joinNames ps []

/-- The parameters up to a closing bracket, the first of which may have been read. -/
def parameterList (r : Rules) (closing : String) (dots : Bool) (first? : Option Parameter) :
    Read (List Field) := do
  let unions := closing == "]"
  let bound ← Read.bound
  let what := "parameter list"
  let others := Read.listUntil closing what (r.parameter unions none) bound
  let start ← match first? with
    | some { name? := some n, .. } => pure n.start
    | some { type? := some type, .. } => pure type.start
    | _ => Read.here
  let ps ← match first? with
    | none => others
    | some p => do
      let p ← match p.name?, p.type? with
        | name?, some type => pure { name?, type? := some (← r.unionOf (some type)) }
        | name?, none => r.parameter unions name?
      if ← Read.atComma closing what then
        Read.skip
        pure (p :: (← others))
      else pure [p]
  fieldsOf unions dots start (ps.filter fun p => p.name?.isSome || p.type?.isSome)

def parameters (r : Rules) (dots : Bool) : Read Fields := do
  let opening ← Read.expect "("
  let list ← r.parameterList ")" dots none
  let closing ← Read.expect ")"
  return { opening? := some opening, list, closing? := some closing }

/-- The parameters that stand for types, if there are any. -/
def typeParameters? (r : Rules) : Read (Option Fields) := do
  if ← Read.at? "[" then
    let opening ← Read.expect "["
    let list ← r.parameterList "]" false none
    let closing ← Read.expect "]"
    if list.isEmpty then
      Read.report closing "empty type parameter list"
      return none
    return some { opening? := some opening, list, closing? := some closing }
  else return none

def results? (r : Rules) : Read (Option Fields) := do
  if ← Read.at? "(" then return some (← r.parameters false)
  else match ← r.type? with
    | some type =>
      let f : Field := { names := [], type, tag? := none, remarked := false }
      return some { opening? := none, list := [f], closing? := none }
    | none => return none

/-- The type of a function, from its parameters on. -/
def signature (r : Rules) : Read Signature := do
  let parameters ← r.parameters true
  let results? ← r.results?
  return { types? := none, parameters, results? }

def functionType (r : Rules) : Read (Nat × Signature) := do
  let start ← Read.expect "func"
  if let some fields ← r.typeParameters? then
    Read.report (fields.opening?.getD start) "function type must have no type parameters"
  return (start, ← r.signature)

/-! ## Contracts -/

def isName (x : Expr) : Bool := match x.form with
  | .name _ => true
  | _ => false

/-- A method, from its parameters on. -/
def methodType (r : Rules) (n : Name) : Read (List Name × Expr) := do
  let s ← r.signature
  let start := (s.parameters.opening?).getD n.stop
  return ([n], { start, stop := s.stop, form := .signature s })

/-- A name with brackets after it: an embedded type with what it is given for its parameters. The
first of these may be any expression, but a name that something other than a comma follows begins
the parameters of a method, which has none that stand for types. -/
def embeddedInstance (r : Rules) (n : Name) : Read (List Name × Expr) := do
  let opening ← Read.expect "["
  let bound ← Read.bound
  let what := "type argument list"
  let first ← Read.nested r.expression
  let isParameter := isName first && !(← Read.atAny [",", "]"])
  match isParameter, first.form with
  | true, .name text =>
    let _ ← r.parameterList "]" false (some { name? := some { start := first.start, text } })
    let _ ← Read.expect "]"
    Read.report opening "interface method must have no type parameters"
    r.methodType n
  | _, _ =>
    let others ← if ← Read.atComma "]" what then
        Read.nested do
          Read.skip
          Read.listUntil "]" what r.type bound
      else pure []
    let closing ← Read.expectClosing "]" what
    let form := .index n.toExpr opening (first :: others)
    return ([], { start := n.start, stop := closing + 1, form })

/-- A method, or an embedded type. -/
def method (r : Rules) : Read (List Name × Expr) := do
  let n ← Read.name
  if ← Read.at? "(" then r.methodType n
  else if ← Read.at? "[" then r.embeddedInstance n
  else return ([], ← r.qualifiedInstance (some n))

/-- The names and the type of a method, or an embedded type, if one comes next. -/
def contractType? (r : Rules) : Read (Option (List Name × Expr)) := do
  if ← Read.atKind .name then
    let (names, type) ← r.method
    if names.isEmpty then return some ([], ← r.unionOf (some type)) else return some (names, type)
  else if ← Read.at? "~" then return some ([], ← r.unionOf none)
  else match ← r.type? with
    | some type => return some ([], ← r.unionOf (some type))
    | none => return none

/-- The fields of a contract, up to something that is none. -/
def contractFields (r : Rules) : Nat → Read (List Field)
  | 0 => Read.stop
  | fuel + 1 => do
    match ← r.contractType? with
    | some (names, type) =>
      let comment? ← Read.expectEnd
      let fields ← contractFields r fuel
      return { names, type, tag? := none, remarked := comment?.isSome } :: fields
    | none => return []

def contract (r : Rules) : Read Expr := do
  let start ← Read.expect "interface"
  let opening ← Read.expect "\x7b"
  let list ← r.contractFields (← Read.bound)
  let closing ← Read.expect "\x7d"
  return { start, stop := closing + 1, form := .contract ⟨some opening, list, some closing⟩ }

/-! ## Types -/

def table (r : Rules) : Read Expr := do
  let start ← Read.expect "map"
  let _ ← Read.expect "["
  let key ← r.type
  let _ ← Read.expect "]"
  let value ← r.type
  return { start, stop := value.stop, form := .table key value }

def channel (r : Rules) : Read Expr := do
  let start ← Read.here
  if ← Read.accept "<-" then
    let _ ← Read.expect "chan"
    let element ← r.type
    return { start, stop := element.stop, form := .channel (some start) .receive element }
  else
    let _ ← Read.expect "chan"
    let arrow ← Read.here
    let sends ← Read.accept "<-"
    let element ← r.type
    let form := if sends then .channel (some arrow) .send element
      else .channel none .both element
    return { start, stop := element.stop, form }

def typeBody? (r : Rules) : Read (Option Expr) := Read.inside do
  let t ← Read.token
  if t.kind = .name then return some (← r.qualifiedInstance none)
  else if t.isMark "[" then
    let opening ← Read.expect "["
    return some (← r.array opening none)
  else if t.isMark "struct" then return some (← r.record)
  else if t.isMark "*" then
    Read.skip
    let base ← r.type
    return some { start := t.start, stop := base.stop, form := .star base }
  else if t.isMark "func" then
    let (start, s) ← r.functionType
    return some { start, stop := s.stop, form := .signature s }
  else if t.isMark "interface" then return some (← r.contract)
  else if t.isMark "map" then return some (← r.table)
  else if t.isAnyMark ["chan", "<-"] then return some (← r.channel)
  else if t.isMark "(" then
    Read.skip
    let inner ← r.type
    let closing ← Read.expect ")"
    return some { start := t.start, stop := closing + 1, form := .parens inner }
  else return none

end Rules

end ModelCompiler.Code
