import ModelCompiler.Code.Layout.Expressions
import ModelCompiler.Text.Printable

/-! # The layout of declarations -/

namespace ModelCompiler.Code

/-! ## Import paths -/

/-- The characters that a plain import path does not hold. -/
def pathStops : List Char := "!\"#$%&'()*,:;<=>?[\\]^\x7b|\x7d`".toList ++ ['\ufffd']

def isPathChar (c : Char) : Bool :=
  Text.isPrintable c && !Text.isBlank c && !pathStops.contains c

/-- The bytes that a literal stands for. -/
def literalBytes? (text : List Char) : Option (List UInt8) :=
  match text with
  | [] => none
  | quote :: rest =>
    let inner := rest.dropLast
    if quote = rawQuote then some (inner.flatMap Text.utf8Bytes)
    else Text.readLiteral? (String.ofList inner)

/-- The literal of an import path. A plain path is written without escapes. -/
def pathLiteral (text : List Char) : List Char :=
  match (literalBytes? text).bind fun bytes => String.fromUTF8? ⟨bytes.toArray⟩ with
  | some path =>
    if path ≠ "" ∧ path.toList.all isPathChar then (Text.quote path).toList else text
  | none => text

namespace Layouts

def importPath (l : Layouts) (x : Expr) : Print Unit := match x.form with
  | .literal kind text => l.alone { x with form := .literal kind (pathLiteral text) }
  | _ => l.alone x

/-! ## Values -/

/-- Whether names of a group have values. -/
def hasValues : Spec → Bool
  | .values _ _ xs _ => !xs.isEmpty
  | _ => false

def hasType : Spec → Bool
  | .values _ type? _ _ => type?.isSome
  | _ => false

/-- For each of some specs, whether it keeps a column for types: runs of those with values do if one
of them has a type. -/
def keepsTypes (specs : List Spec) : List Bool :=
  (grouped hasValues specs).flatMap fun (valued, run) =>
    run.map fun _ => valued && run.any hasType

/-- Names with their types and values in columns. -/
def valueColumns (l : Layouts) (keepsType : Bool) : Spec → Print Unit
  | .values ns type? xs remarked => do
    l.names ns false
    let typed := type?.isSome || keepsType
    if typed then Print.gap .tab
    match type? with
    | some type => l.alone type
    | none => pure ()
    if !xs.isEmpty then
      Print.gap .tab
      Print.sign "="
      Print.gap .blank
      l.list none xs 1 false true none
    if remarked then
      let used := (if typed then 1 else 0) + (if xs.isEmpty then 0 else 1)
      Print.gaps (List.replicate (3 - used) .tab)
  | _ => return

/-! ## Specs -/

/-- One of `count` specs, the names of which are indented over several lines if `indented` holds. -/
def spec (l : Layouts) (count : Nat) (indented : Bool) : Spec → Print Unit
  | .imported name? path stop? _ => do
    match name? with
    | some n =>
      l.alone n.toExpr
      Print.gap .blank
    | none => pure ()
    l.importPath path
    Print.goTo? stop?
  | .values ns type? xs _ => do
    l.names ns indented
    match type? with
    | some type =>
      Print.gap .blank
      l.alone type
    | none => pure ()
    if !xs.isEmpty then
      Print.gap .blank
      Print.sign "="
      Print.gap .blank
      l.list none xs 1 false true none
  | .defined n types? synonym type _ => do
    l.alone n.toExpr
    match types? with
    | some types => l.parameters "[" "]" true types
    | none => pure ()
    Print.gap (if count = 1 then .blank else .tab)
    if synonym then
      Print.sign "="
      Print.gap .blank
    l.alone type

/-- Specs, each on its own line; the note is that of the line of the last one. -/
def specLines (note : Nat) : Bool → List (Spec × Print Unit) → Print Unit
  | _, [] => return
  | first, (s, write) :: rest => do
    if !first then
      let sectioned := decide (0 < (← Print.linesSince note))
      let _ ← Print.breakTo (← Print.lineOf s.start) 1 .ignore sectioned
    Print.note note
    write
    specLines note false rest

/-- Specs in parentheses. -/
def specs (l : Layouts) (word : String) (ss : List Spec) : Print Unit := do
  if !ss.isEmpty then
    Print.gaps [.indent, .formfeed]
    let note ← Print.newNote
    let writers := if 1 < ss.length ∧ (word = "const" ∨ word = "var") then
        (ss.zip (keepsTypes ss)).map fun (s, keepsType) => (s, l.valueColumns keepsType s)
      else ss.map fun s => (s, l.spec ss.length false s)
    specLines note true writers
    Print.gaps [.unindent, .formfeed]

/-! ## Declarations -/

def declaration (l : Layouts) : Decl → Print Unit
  | .group start word opening? ss closing? _ => do
    Print.goTo start
    Print.sign word
    Print.gap .blank
    match opening?, ss with
    | none, [s] => l.spec 1 true s
    | _, _ =>
      Print.goTo? opening?
      Print.sign "("
      l.specs word ss
      Print.goTo? closing?
      Print.sign ")"
  | .function start receiver? n type body? _ => do
    Print.goTo start
    Print.sign "func"
    Print.gap .blank
    let column := (← get).column - 5
    match receiver? with
    | some receiver =>
      l.parameters "(" ")" false receiver
      Print.gap .blank
    | none => pure ()
    l.alone n.toExpr
    l.signature type
    match body? with
    | some b => l.body (← distanceFrom start column) .tab b
    | none => pure ()

/-- The number of lines of a function in the source. -/
def lineCount (d : Decl) : Print Int := match d with
  | .function start _ _ type body? _ => do
    let stop := match body? with
      | some b => b.closing + 1
      | none => type.stop
    return (← Print.lineOf stop) - (← Print.lineOf start) + 1
  | .group .. => return 1

/-- Declarations; a blank line stands between two that begin with different words, and before one
that is documented. -/
def declarations (l : Layouts) : Option String → List Decl → Print Unit
  | _, [] => return
  | word?, d :: ds => do
    if !(← get).output.isEmpty then
      let least := if word? != some d.word || d.documented then 2 else 1
      let sectioned := d.word == "func" && decide (1 < (← lineCount d))
      let _ ← Print.breakTo (← Print.lineOf d.start) least .ignore sectioned
    l.declaration d
    declarations l (some d.word) ds

/-- A whole text. -/
def program (l : Layouts) (p : Program) : Print Unit := do
  Print.goTo p.start
  Print.sign "package"
  Print.gap .blank
  l.alone p.name.toExpr
  l.declarations none p.declarations
  Print.gap .newline

end Layouts

end ModelCompiler.Code
