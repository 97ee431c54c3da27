import ModelCompiler.Code.Layout.Declarations

/-! # The layout of statements -/

namespace ModelCompiler.Code

namespace Layouts

/-! ## Heads -/

/-- Whether an expression is a name, perhaps with that of its package. -/
def isTypeName : Nat → Option Expr → Bool
  | fuel + 1, some x => match x.form with
    | .name _ => true
    | .selector base _ => isTypeName fuel (some base)
    | _ => false
  | _, _ => false

/-- Whether something holds a list in braces that begins with a name and stands in no
parentheses. -/
def hasNamedList : Nat → Node → Bool
  | 0, _ => false
  | _, .expr { form := .parens _, .. } => false
  | fuel + 1, .expr { form := .composite type? _ _, .. } => isTypeName fuel type?
  | fuel + 1, n => n.parts.any (hasNamedList fuel)

/-- An expression without the parentheses that it does not need in a head. -/
def withoutParens : Nat → Expr → Expr
  | 0, x => x
  | fuel + 1, x => match x.form with
    | .parens inner =>
      if hasNamedList (2 * (x.stop - x.start)) (.expr inner) then x else withoutParens fuel inner
    | _ => x

def headExpression (l : Layouts) (x : Expr) : Print Unit :=
  l.alone (withoutParens (x.stop - x.start) x)

def optional {α : Type} (p : α → Print Unit) : Option α → Print Unit
  | some a => p a
  | none => return

/-- What stands between the word that begins a statement and its body. -/
def head (l : Layouts) (isLoop : Bool) (first? : Option Stmt) (test? : Option Expr)
    (step? : Option Stmt) : Print Unit := do
  Print.gap .blank
  if first?.isNone && step?.isNone then
    optional l.headExpression test?
    if test?.isSome then Print.gap .blank
  else
    optional (l.statement false) first?
    Print.sign ";"
    Print.gap .blank
    optional l.headExpression test?
    if isLoop then
      Print.sign ";"
      Print.gap .blank
      optional (l.statement false) step?
      if step?.isSome then Print.gap .blank
    else if test?.isSome then Print.gap .blank

/-! ## Lists of results -/

/-- Whether an expression is a list in braces, perhaps after operators. -/
def isComposite : Expr → Bool
  | { form := .composite _ _ _, .. } => true
  | { form := .parens inner, .. } => isComposite inner
  | { form := .unary _ inner, .. } => isComposite inner
  | _ => false

/-- Whether an item does not begin on the line on which the one before it ends. -/
def breaksBetween : List Expr → Print Bool
  | x :: y :: rest => do
    if (← Print.lineOf x.stop) < (← Print.lineOf y.start) then return true
    else breaksBetween (y :: rest)
  | _ => return false

/-- Whether all of a list is indented: there is a line break between its items, or more than one of
them takes several lines. Lists in braces do not count. -/
def indentsAll (xs : List Expr) : Print Bool := do
  if ← breaksBetween xs then return true
  let broken ← xs.filterM fun x => do
    return !isComposite x && (← Print.lineOf x.start) < (← Print.lineOf x.stop)
  return 1 < broken.length

/-! ## Statements -/

def labeled (l : Layouts) (closes : Bool) (label : Name) (colon : Nat) (s : Stmt) :
    Print Unit := do
  Print.gap .unindent
  l.alone label.toExpr
  Print.goTo colon
  Print.sign ":"
  Print.gap .indent
  match s with
  | .empty start =>
    if !closes then
      Print.gap .newline
      Print.goTo start
      Print.sign ";"
    else l.statement closes s
  | s =>
    let _ ← Print.breakTo (← Print.lineOf s.start) 1 .ignore true
    l.statement closes s

def clause (l : Layouts) (closes : Bool) (colon : Nat) (ss : List Stmt) : Print Unit := do
  Print.goTo colon
  Print.sign ":"
  l.statements ss true closes

def iteration (l : Layouts) (targets : List Expr) (place : Nat) (op : String) (x : Expr)
    (b : Block) : Print Unit := do
  Print.sign "for"
  Print.gap .blank
  match targets with
  | [] => pure ()
  | key :: more =>
    l.alone key
    more.forM fun value => do
      Print.goTo value.start
      Print.sign ","
      Print.gap .blank
      l.alone value
    Print.gap .blank
    Print.goTo place
    Print.sign op
    Print.gap .blank
  Print.sign "range"
  Print.gap .blank
  l.headExpression x
  Print.gap .blank
  l.block b true

def results (l : Layouts) (xs : List Expr) : Print Unit := do
  Print.sign "return"
  if !xs.isEmpty then
    Print.gap .blank
    if ← indentsAll xs then
      Print.gap .indent
      l.list none xs 1 false false none
      Print.gap .unindent
    else l.list none xs 1 false true none

def selection (l : Layouts) (b : Block) : Print Unit := do
  Print.sign "select"
  Print.gap .blank
  if b.list.isEmpty && !(← Print.commentBefore (← Print.placeOf b.closing)) then
    Print.goTo b.opening
    Print.sign "\x7b"
    Print.goTo b.closing
    Print.sign "\x7d"
  else l.block b false

def statementBody (l : Layouts) (closes : Bool) (s : Stmt) : Print Unit := do
  Print.goTo s.start
  match s with
  | .missing _ | .empty _ => pure ()
  | .declaration d => l.declaration d
  | .labeled label colon s => l.labeled closes label colon s
  | .expression x => l.alone x
  | .send channel arrow value =>
    l.alone channel
    Print.gap .blank
    Print.goTo arrow
    Print.sign "<-"
    Print.gap .blank
    l.alone value
  | .step x place op =>
    l.expression 0 2 x
    Print.goTo place
    Print.sign op
  | .assign left place op right =>
    let depth := if 1 < left.length ∧ 1 < right.length then 2 else 1
    l.list (some s.start) left depth false true (some place)
    Print.gap .blank
    Print.goTo place
    Print.sign op
    Print.gap .blank
    l.list (some place) right depth false true none
  | .launch _ word call =>
    Print.sign word
    Print.gap .blank
    l.alone call
  | .result _ xs => l.results xs
  | .jump _ word label? =>
    Print.sign word
    optional (fun label => do
      Print.gap .blank
      l.alone (Name.toExpr label)) label?
  | .block b => l.block b true
  | .condition _ first? test b otherwise? =>
    Print.sign "if"
    l.head false first? (some test) none
    l.block b true
    optional (fun s => do
      Print.gap .blank
      Print.sign "else"
      Print.gap .blank
      l.statement closes s) otherwise?
  | .choice _ first? value? b =>
    Print.sign "switch"
    l.head false first? value? none
    l.block b false
  | .typeChoice _ first? guard b =>
    Print.sign "switch"
    optional (fun s => do
      Print.gap .blank
      l.statement false s
      Print.sign ";") first?
    Print.gap .blank
    l.statement false guard
    Print.gap .blank
    l.block b false
  | .selection _ b => l.selection b
  | .branch start values? colon ss =>
    match values? with
    | some xs =>
      Print.sign "case"
      Print.gap .blank
      l.list (some start) xs 1 false true (some colon)
    | none => Print.sign "default"
    l.clause closes colon ss
  | .exchange _ first? colon ss =>
    match first? with
    | some s =>
      Print.sign "case"
      Print.gap .blank
      l.statement false s
    | none => Print.sign "default"
    l.clause closes colon ss
  | .loop _ first? test? step? b =>
    Print.sign "for"
    l.head true first? test? step?
    l.block b true
  | .iteration _ targets place op x b => l.iteration targets place op x b

/-- Writes something, unless only a size is asked for and a line has been broken, which settles
it. -/
def unlessSettled (p : Print Unit) : Print Unit := do
  if (← read).measuring && (← get).line != 1 then return
  p

/-- The layouts, given those for what is nested one level deeper. -/
def deeper (l : Layouts) : Layouts where
  expression tightness depth x := unlessSettled (l.expressionBody tightness depth x)
  statement closes s := unlessSettled (l.statementBody closes s)

/-- Layouts that write nothing. -/
def nothing : Layouts where
  expression _ _ _ := return
  statement _ _ := return

/-- The layouts for what is nested at most as deep as given. -/
def upTo (depth : Nat) : Layouts := depth.repeat deeper nothing

end Layouts

end ModelCompiler.Code
