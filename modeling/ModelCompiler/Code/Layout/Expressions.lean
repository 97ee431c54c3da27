import ModelCompiler.Code.Layout.Lists
import ModelCompiler.Code.Literal

/-! # The layout of expressions -/

namespace ModelCompiler.Code

namespace Layouts

/-! ## Operators -/

/-- Which of the two tightest classes of operators an expression has, and how tightly the operators
bind that would be misread without blanks. -/
structure Mixture where
  sums : Bool := false
  products : Bool := false
  worst : Nat := 0

def Mixture.join (a b : Mixture) : Mixture where
  sums := a.sums || b.sums
  products := a.products || b.products
  worst := max a.worst b.worst

/-- The operators of an expression down to parentheses. -/
def mixture : Nat → Expr → String → Expr → Mixture
  | 0, _, _, _ => {}
  | fuel + 1, left, op, right =>
    let own : Mixture := { sums := precedence op == 4, products := precedence op == 5 }
    let m := match left.form with
      | .binary x _ o y =>
        if precedence o < precedence op then own else own.join (mixture fuel x o y)
      | _ => own
    match right.form with
    | .binary x _ o y =>
      if precedence o ≤ precedence op then m else m.join (mixture fuel x o y)
    | .star _ => if op = "/" then { m with worst := 5 } else m
    | .unary o _ =>
      if ["/*", "&&", "&^"].contains (op ++ o) then { m with worst := 5 }
      else if ["++", "--"].contains (op ++ o) then { m with worst := max m.worst 4 }
      else m
    | _ => m

/-- Operators that bind less tightly than this have blanks around them. -/
def cutoff (m : Mixture) (depth : Nat) : Nat :=
  if 0 < m.worst then m.worst + 1
  else if m.sums && m.products then (if depth = 1 then 5 else 4)
  else if depth = 1 then 6
  else 4

/-- One if an operand has no operator that binds as tightly as given, else zero. -/
def extraDepth (x : Expr) (tightness : Nat) : Nat := match x.form with
  | .binary _ _ op _ => if precedence op = tightness then 0 else 1
  | _ => 1

/-- The depth inside parentheses. -/
def reduced (depth : Nat) : Nat := max 1 (depth - 1)

def binary (l : Layouts) (depth : Nat) (left : Expr) (place : Nat) (op : String) (right : Expr)
    (limit : Nat) : Print Unit := do
  let tightness := precedence op
  let blanks := decide (tightness < limit)
  l.expression tightness (depth + extraDepth left tightness) left
  if blanks then Print.gap .blank
  let leftLine := (← get).place.line
  let rightLine ← Print.lineOf right.start
  Print.goTo place
  Print.sign op
  let n ← if leftLine ≠ rightLine ∧ 0 < leftLine ∧ 0 < rightLine then
      Print.breakTo rightLine 1 .indent true
    else pure 0
  if blanks && n == 0 then Print.gap .blank
  l.expression (tightness + 1) (depth + 1) right
  if 0 < n then Print.gap .unindent

/-! ## Functions -/

/-- A body that stands on one line has at most this size together with what comes before it. -/
def maxBodySize : Nat := 100

/-- Whether a statement declares something in a line that a comment ends. Such a statement takes
more than one line. -/
def hasRemark : Stmt → Bool
  | .declaration (.group _ _ _ specs _ _) => specs.any Spec.hasRemark
  | _ => false

/-- The size of a statement up to a limit. -/
def statementSize (l : Layouts) (limit : Nat) (s : Stmt) : Print Nat :=
  if hasRemark s then return limit + 1
  else measured { start := s.start, stop := s.start, limit } (l.statement false s)

/-- The size of the statements of a body up to a limit. -/
def statementSizes (l : Layouts) (limit : Nat) : Nat → List Stmt → Print Nat
  | size, [] => return size
  | size, s :: ss => do
    if limit < size then return size
    else
      let own ← l.statementSize limit s
      statementSizes l limit (size + own + if ss.isEmpty then 0 else 2) ss

/-- The size of a body that can stand on one line. -/
def bodySize (l : Layouts) (b : Block) : Print Nat := do
  if (← Print.lineOf b.opening) ≠ (← Print.lineOf b.closing) ∨ 5 < b.list.length then
    return maxBodySize + 1
  let comments ← Print.commentSize (← Print.placeOf b.closing)
  l.statementSizes maxBodySize comments b.list

def isEmpty : Stmt → Bool
  | .empty _ => true
  | _ => false

/-- Statements, each on its own line; `clauses` says that they are the cases of a choice. -/
def statementLines (l : Layouts) (clauses closes : Bool) (count : Nat) (note : Nat) :
    Nat → List Stmt → Print Unit
  | _, [] => return
  | i, s :: ss => do
    if isEmpty s then statementLines l clauses closes count note i ss
    else
      if !(← get).output.isEmpty then
        let sectioned := i == 0 || clauses || decide (0 < (← Print.linesSince note))
        let _ ← Print.breakTo (← Print.lineOf s.start) 1 .ignore sectioned
      Print.note note
      l.statement (closes && i + 1 == count) s
      modify fun sheet =>
        { sheet with notes := sheet.notes.modify note (· + (s.labels : Int)) }
      statementLines l clauses closes count note (i + 1) ss

/-- Statements, where `closes` says whether a closing brace follows. -/
def statements (l : Layouts) (ss : List Stmt) (indented closes : Bool) : Print Unit := do
  if indented then Print.gap .indent
  let note ← Print.newNote
  l.statementLines (!indented) closes ss.length note 0 ss
  if indented then Print.gap .unindent

def block (l : Layouts) (b : Block) (indented : Bool) : Print Unit := do
  Print.goTo b.opening
  Print.sign "\x7b"
  l.statements b.list indented true
  let _ ← Print.breakTo (← Print.lineOf b.closing) 1 .ignore true
  Print.goTo b.closing
  Print.sign "\x7d"

/-- Statements on one line. -/
def inlineStatements (l : Layouts) : Bool → List Stmt → Print Unit
  | _, [] => return
  | first, s :: ss => do
    if !first then
      Print.sign ";"
      Print.gap .blank
    l.statement ss.isEmpty s
    inlineStatements l false ss

/-- The body of a function after something of the given size, if that is known. -/
def body (l : Layouts) (header? : Option Int) (before : Gap) (b : Block) : Print Unit := do
  let level := (← get).level
  modify fun s => { s with level := 0 }
  let size ← l.bodySize b
  if header?.any fun h => decide (h + (size : Int) ≤ maxBodySize) then
    Print.gap before
    Print.goTo b.opening
    Print.sign "\x7b"
    if !b.list.isEmpty then
      Print.gap .blank
      l.inlineStatements true b.list
      Print.gap .blank
    Print.noteOpened
    modify fun s => { s with keepsLine := !s.keepsLine }
    Print.goTo b.closing
    Print.sign "\x7d"
    Print.noteOpened
    modify fun s => { s with keepsLine := !s.keepsLine }
  else
    Print.gap .blank
    l.block b true
  modify fun s => { s with level }

/-- How far the output is from a column, if it is on the line of an offset. -/
def distanceFrom (start : Nat) (column : Int) : Print (Option Int) := do
  let s ← get
  if (← Print.lineOf start) = s.place.line then return some (s.column - column) else return none

def function (l : Layouts) (start : Nat) (type : Signature) (b : Block) : Print Unit := do
  Print.goTo start
  Print.sign "func"
  let column := (← get).column - 4
  l.signature type
  l.body (← distanceFrom start column) .blank b

/-! ## Selectors, indices and calls -/

/-- A selector; the result says whether its name is on a line of its own, in which case the
indentation goes on if `method` holds. -/
def selector (l : Layouts) (depth : Nat) (base : Expr) (n : Name) (method : Bool) :
    Print Bool := do
  l.expression operandPrecedence depth base
  Print.sign "."
  if (← get).place.line < (← Print.lineOf n.start) then
    Print.gaps [.indent, .newline]
    Print.goTo n.start
    Print.name n.text
    if !method then Print.gap .unindent
    return true
  else
    Print.goTo n.start
    Print.name n.text
    return false

def isBinary (x : Expr) : Bool := match x.form with
  | .binary .. => true
  | _ => false

/-- The bounds of a slice, with blanks around the colons if `blanks` holds. -/
def bounds (l : Layouts) (depth : Nat) (blanks : Bool) : Option (Option Expr) →
    List (Option Expr) → Print Unit
  | _, [] => return
  | previous?, x? :: xs => do
    match previous? with
    | none => pure ()
    | some previous =>
      if previous.isSome && blanks then Print.gap .blank
      Print.sign ":"
      if x?.isSome && blanks then Print.gap .blank
    match x? with
    | some x => l.expression 0 (depth + 1) x
    | none => pure ()
    bounds l depth blanks (some x?) xs

def slice (l : Layouts) (depth : Nat) (base : Expr) (opening closing : Nat)
    (xs : List (Option Expr)) : Print Unit := do
  l.expression operandPrecedence 1 base
  Print.goTo opening
  Print.sign "["
  let given := xs.filterMap id
  let blanks := decide (depth ≤ 1) && decide (1 < given.length) && given.any isBinary
  l.bounds depth blanks none xs
  Print.goTo closing
  Print.sign "]"

def index (l : Layouts) (depth : Nat) (base : Expr) (opening closing : Nat) (xs : List Expr) :
    Print Unit := do
  l.expression operandPrecedence 1 base
  Print.goTo opening
  Print.sign "["
  match xs with
  | [x] => l.expression 0 (depth + 1) x
  | xs => l.list (some opening) xs (depth + 1) true true (some closing)
  Print.goTo closing
  Print.sign "]"

/-- Whether a type has to stand in parentheses before the arguments of a conversion. -/
def needsParens (x : Expr) : Bool := match x.form with
  | .signature _ => true
  | .channel _ .receive _ => true
  | _ => false

def call (l : Layouts) (depth : Nat) (function : Expr) (opening closing : Nat) (xs : List Expr)
    (dots? : Option Nat) : Print Unit := do
  let depth := if 1 < xs.length then depth + 1 else depth
  if needsParens function then Print.sign "("
  let indented ← match function.form with
    | .selector base n => l.selector depth base n true
    | _ => do
      l.expression operandPrecedence depth function
      pure false
  if needsParens function then Print.sign ")"
  Print.goTo opening
  Print.sign "("
  match dots? with
  | some dots =>
    l.list (some opening) xs depth false true (some dots)
    Print.goTo dots
    Print.sign "..."
    if (← Print.lineOf dots) < (← Print.lineOf closing) then
      Print.sign ","
      Print.gap .formfeed
  | none => l.list (some opening) xs depth true true (some closing)
  Print.goTo closing
  Print.sign ")"
  if indented then Print.gap .unindent

def composite (l : Layouts) (depth : Nat) (type? : Option Expr) (opening closing : Nat)
    (xs : List Expr) : Print Unit := do
  match type? with
  | some type => l.expression operandPrecedence depth type
  | none => pure ()
  modify fun s => { s with level := s.level + 1 }
  Print.goTo opening
  Print.sign "\x7b"
  l.list (some opening) xs 1 true true (some closing)
  let toggle := do
    Print.noteOpened
    modify fun s =>
      { s with
        keepsLine := !s.keepsLine
        keepsClose := if xs.isEmpty then s.keepsClose else !s.keepsClose }
  Print.gaps [.indent, .unindent]
  toggle
  Print.goTo closing
  Print.sign "\x7d"
  toggle
  modify fun s => { s with level := s.level - 1 }

/-! ## Expressions -/

def isParens (x : Expr) : Bool := match x.form with
  | .parens _ => true
  | _ => false

def channel (l : Layouts) (arrow? : Option Nat) (direction : Direction) (element : Expr) :
    Print Unit := do
  match direction with
  | .both => Print.sign "chan"
  | .receive =>
    Print.sign "<-"
    Print.sign "chan"
  | .send =>
    Print.sign "chan"
    Print.goTo? arrow?
    Print.sign "<-"
  Print.gap .blank
  l.alone element

def expressionBody (l : Layouts) (least depth : Nat) (x : Expr) : Print Unit := do
  Print.goTo x.start
  let closing := x.stop - 1
  match x.form with
  | .missing => pure ()
  | .name text => Print.name text
  | .binary left place op right =>
    if precedence op < least then
      Print.sign "("
      l.expression 0 (reduced depth) x
      Print.sign ")"
    else
      let m := mixture (x.stop - x.start) left op right
      l.binary depth left place op right (cutoff m depth)
  | .pair key colon value =>
    l.alone key
    Print.goTo colon
    Print.sign ":"
    Print.gap .blank
    l.alone value
  | .star inner =>
    if unaryPrecedence < least then
      Print.sign "("
      Print.sign "*"
      l.alone inner
      Print.sign ")"
    else
      Print.sign "*"
      l.alone inner
  | .unary op inner =>
    if unaryPrecedence < least then
      Print.sign "("
      l.alone x
      Print.sign ")"
    else
      Print.sign op
      l.expression unaryPrecedence depth inner
  | .literal kind text =>
    let isNumber := kind == .integer || kind == .decimal || kind == .imaginary
    let text := if isNumber && !(← read).measuring then normalNumber text else text
    Print.literal kind text
  | .function type b => l.function x.start type b
  | .parens inner =>
    if isParens inner then l.expression 0 depth inner
    else
      Print.sign "("
      l.expression 0 (reduced depth) inner
      Print.goTo closing
      Print.sign ")"
  | .selector base n =>
    let _ ← l.selector depth base n false
  | .assertion base opening type? =>
    l.expression operandPrecedence depth base
    Print.sign "."
    Print.goTo opening
    Print.sign "("
    match type? with
    | some type => l.alone type
    | none => Print.sign "type"
    Print.goTo closing
    Print.sign ")"
  | .index base opening xs => l.index depth base opening closing xs
  | .slice base opening xs => l.slice depth base opening closing xs
  | .call function opening xs dots? => l.call depth function opening closing xs dots?
  | .composite type? opening xs => l.composite depth type? opening closing xs
  | .dots element? =>
    Print.sign "..."
    match element? with
    | some element => l.alone element
    | none => pure ()
  | .array length? element =>
    Print.sign "["
    match length? with
    | some length => l.alone length
    | none => pure ()
    Print.sign "]"
    l.alone element
  | .record f =>
    Print.sign "struct"
    l.fields true f
  | .signature type =>
    Print.sign "func"
    l.signature type
  | .contract f =>
    Print.sign "interface"
    l.fields false f
  | .table key value =>
    Print.sign "map"
    Print.sign "["
    l.alone key
    Print.sign "]"
    l.alone value
  | .channel arrow? direction element => l.channel arrow? direction element

end Layouts

end ModelCompiler.Code
