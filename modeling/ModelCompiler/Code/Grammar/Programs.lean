import ModelCompiler.Code.Grammar.Statements

/-! # Reading whole texts -/

namespace ModelCompiler.Code

namespace Rules

/-- Declarations up to the end of the text, where no import comes after something else. -/
def declarations (r : Rules) : Nat → Bool → Read (List Decl)
  | 0, _ => Read.stop
  | fuel + 1, imports => do
    if ← Read.atKind .ending then return []
    let isImport ← Read.at? "import"
    if isImport && !imports then
      Read.report (← Read.here) "imports must appear before other declarations"
    match ← r.declaration? with
    | some d => return d :: (← declarations r fuel isImport)
    | none =>
      Read.recover "declaration" Read.declarationWords
      declarations r fuel isImport

/-- A whole text: its package clause, and its declarations. Nothing is read after a package clause
that is malformed. -/
def program (r : Rules) : Read Program := do
  Read.advance 0
  let start ← Read.expect "package"
  let name ← Read.name
  let _ ← Read.expectEnd
  if !(← get).faults.isEmpty then Read.stop
  let declarations ← r.declarations (← Read.bound) true
  return { start, name, declarations, comments := (← get).comments.reverse }

end Rules

/-- The tree of a text, or its first fault. -/
def Program.ofText (text : List Char) : Except Fault Program :=
  let scan := Scan.ofText text
  match scan.fault? with
  | some f => .error f
  | none =>
    let start : Token := { kind := .sign, text := [], start := 0, stop := 0 }
    let count := scan.tokens.length
    let source : Numbered := { lines := Lines.ofText text, shifts := scan.shifts }
    let reading : Reading := { count, rest := scan.tokens, token := start }
    match (Rules.upTo (4 * count + 4)).program.run source |>.run reading with
    | .ok p s => match Fault.first? s.faults with
      | some f => .error f
      | none => .ok p
    | .error _ s => .error ((Fault.first? s.faults).getD { message := "malformed" })

end ModelCompiler.Code
