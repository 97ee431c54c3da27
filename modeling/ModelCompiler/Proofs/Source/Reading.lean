import ModelCompiler.Proofs.Source.Expression
import ModelCompiler.Proofs.Source.Lexing

/-!
# Reading expressions

Expressions are read lexeme by lexeme, with a stack of the calls whose arguments are being read.
The lexemes of an expression take a reader past that expression, by induction over it, so that the
expression is read back.  The statements in the body of a function are what semicolons separate.
-/

namespace ModelCompiler.Source

open Code (Lexeme lexemes? callLexemes)

/-! ## Expressions -/

/-- A call of which some arguments have been read. -/
structure Pending where
  receiver : Expr
  function : String
  arguments : List Expr := []

namespace Pending

def add (c : Pending) (e : Expr) : Pending := { c with arguments := c.arguments ++ [e] }

def expr (c : Pending) : Expr := .call c.receiver c.function c.arguments

end Pending

/-- What has been read of the innermost expression. -/
inductive Focus where
  | start
  | whole (e : Expr)
  /-- The expression and the dot after it. -/
  | dot (e : Expr)
  | function (e : Expr) (name : String)

/-- What has been read of an expression; the innermost call comes first. -/
structure Reader where
  calls : List Pending := []
  focus : Focus := .start

/-- Reads one lexeme. -/
def Reader.step (r : Reader) (l : Lexeme) : Option Reader :=
  match r.focus, l.kind, String.ofList l.chars, r.calls with
  | .start, .name, x, calls => some { calls, focus := .whole (.name x) }
  | .start, .text, _, calls =>
    (Text.unquote? l.chars).map fun t => { calls, focus := .whole (.text t) }
  | .whole e, .sign, ".", calls => some { calls, focus := .dot e }
  | .dot e, .name, x, calls => some { calls, focus := .function e x }
  | .function e x, .sign, "(", calls =>
    some { calls := { receiver := e, function := x } :: calls, focus := .start }
  | .whole e, .sign, ",", c :: calls => some { calls := c.add e :: calls, focus := .start }
  | .whole e, .sign, ")", c :: calls => some { calls, focus := .whole (c.add e).expr }
  | .start, .sign, ")", c :: calls => some { calls, focus := .whole c.expr }
  | _, _, _, _ => none

/-- The expression that has these lexemes. -/
def expression? (ls : List Lexeme) : Option Expr :=
  match ls.foldlM Reader.step {} with
  | some { calls := [], focus := .whole e } => some e
  | _ => none

mutual

/-- The lexemes of an expression. -/
def Expr.lexemes : Expr → List Lexeme
  | .name x => [.name x]
  | .text s => [.quoted s]
  | .call receiver function arguments =>
    receiver.lexemes ++ callLexemes function (Expr.lexemesAll arguments)

def Expr.lexemesAll : List Expr → List (List Lexeme)
  | [] => []
  | e :: es => e.lexemes :: Expr.lexemesAll es

end

section

variable {calls : List Pending}

theorem step_name (x : String) : Reader.step { calls, focus := .start } (.name x) =
    some { calls, focus := .whole (.name x) } := by
  simp [Reader.step, Lexeme.name]

theorem step_quoted (s : String) : Reader.step { calls, focus := .start } (.quoted s) =
    some { calls, focus := .whole (.text s) } := by
  simp [Reader.step, Lexeme.quoted, Text.unquote?_quote]

theorem step_dot (e : Expr) : Reader.step { calls, focus := .whole e } (.sign ".") =
    some { calls, focus := .dot e } := rfl

theorem step_function (e : Expr) (x : String) : Reader.step { calls, focus := .dot e } (.name x) =
    some { calls, focus := .function e x } := by
  simp [Reader.step, Lexeme.name]

theorem step_open (e : Expr) (x : String) :
    Reader.step { calls, focus := .function e x } (.sign "(") =
      some { calls := { receiver := e, function := x } :: calls, focus := .start } := rfl

theorem step_comma (e : Expr) (c : Pending) :
    Reader.step { calls := c :: calls, focus := .whole e } (.sign ",") =
      some { calls := c.add e :: calls, focus := .start } := rfl

theorem step_close (e : Expr) (c : Pending) :
    Reader.step { calls := c :: calls, focus := .whole e } (.sign ")") =
      some { calls, focus := .whole (c.add e).expr } := rfl

theorem step_close_start (c : Pending) :
    Reader.step { calls := c :: calls, focus := .start } (.sign ")") =
      some { calls, focus := .whole c.expr } := rfl

end

mutual

/-- The lexemes of an expression take a reader past it. -/
theorem foldlM_lexemes (calls : List Pending) (rest : List Lexeme) : (e : Expr) →
    (e.lexemes ++ rest).foldlM Reader.step { calls, focus := .start } =
      rest.foldlM Reader.step { calls, focus := .whole e }
  | .name x => by
    rw [Expr.lexemes, List.singleton_append, List.foldlM_cons, step_name]
    rfl
  | .text s => by
    rw [Expr.lexemes, List.singleton_append, List.foldlM_cons, step_quoted]
    rfl
  | .call receiver function arguments => by
    rw [Expr.lexemes, List.append_assoc, foldlM_lexemes calls _ receiver, callLexemes]
    simp only [List.cons_append, List.foldlM_cons, step_dot, step_function, step_open,
      Option.bind_eq_bind, Option.bind_some]
    exact foldlM_lexemesAll calls rest { receiver, function } arguments

/-- The lexemes of arguments and the closing sign take a reader past their call. -/
theorem foldlM_lexemesAll (calls : List Pending) (rest : List Lexeme) (c : Pending) :
    (es : List Expr) →
    ([Lexeme.sign ","].intercalate (Expr.lexemesAll es) ++ [Lexeme.sign ")"] ++ rest).foldlM
        Reader.step { calls := c :: calls, focus := .start } =
      rest.foldlM Reader.step
        { calls, focus := .whole (.call c.receiver c.function (c.arguments ++ es)) }
  | [] => by
    rw [Expr.lexemesAll, List.intercalate_nil, List.nil_append, List.singleton_append,
      List.foldlM_cons, step_close_start, List.append_nil]
    rfl
  | [e] => by
    rw [Expr.lexemesAll, Expr.lexemesAll, List.intercalate_singleton, List.append_assoc,
      foldlM_lexemes (c :: calls) _ e, List.singleton_append, List.foldlM_cons, step_close]
    rfl
  | e :: e' :: es => by
    have more := foldlM_lexemesAll calls rest (c.add e) (e' :: es)
    rw [Expr.lexemesAll, Expr.lexemesAll, List.intercalate_cons_cons]
    rw [Expr.lexemesAll] at more
    simp only [List.append_assoc, List.singleton_append] at more ⊢
    rw [foldlM_lexemes (c :: calls) _ e, List.cons_append, List.foldlM_cons, step_comma,
      Option.bind_eq_bind, Option.bind_some, more, Pending.add, List.append_assoc,
      List.singleton_append]

end

/-- An expression is read back from its lexemes. -/
theorem expression?_lexemes (e : Expr) : expression? e.lexemes = some e := by
  have read := foldlM_lexemes [] [] e
  rw [List.append_nil] at read
  rw [expression?, read]
  rfl

theorem mapM_expression?_lexemes (es : List Expr) :
    (es.map Expr.lexemes).mapM expression? = some es := by
  induction es with
  | nil => rfl
  | cons e es ih =>
    rw [List.map_cons, List.mapM_cons, expression?_lexemes, ih]
    rfl

/-! ## Bodies of functions -/

/-- Whether the lexemes of a statement call a method that declares a property or adds an
operation. -/
def isAddition : List Lexeme → Bool
  | _ :: dot :: function :: _ =>
    dot == .sign "." && (function == .name "Add" || function == .name "AddOperation")
  | _ => false

/-- The lexemes up to the body of the function that fills the classes. -/
def opening : List Lexeme :=
  [⟨.word, "func".toList⟩, .name "init", .sign "(", .sign ")", .sign "\x7b"]

def closing : List Lexeme := [.sign "\x7d", .semicolon]

/-- The lexemes of the body of the function that fills the classes. -/
def body? (ls : List Lexeme) : Option (List Lexeme) :=
  let body := (ls.drop opening.length).take (ls.length - opening.length - closing.length)
  if ls = opening ++ body ++ closing then some body else none

/-- The statements of a function that fills the classes, in order, that declare properties and add
operations. -/
def additions? (text : String) : Option (List Expr) := do
  let ls ← lexemes? false text.toList
  let body ← body? ls
  ((body.splitOn .semicolon).filter isAddition).mapM expression?

theorem body?_append (ls : List Lexeme) : body? (opening ++ ls ++ closing) = some ls := by
  have length : (opening ++ ls ++ closing).length - opening.length - closing.length =
      ls.length := by
    simp only [List.length_append]
    omega
  have body : ((opening ++ ls ++ closing).drop opening.length).take ls.length = ls := by
    rw [List.append_assoc, List.drop_left, List.take_left]
  rw [body?, length, body]
  exact if_pos rfl

/-- Statements, each with a semicolon after it, are told apart if there is none inside. -/
theorem splitOn_statements {statements : List (List Lexeme)}
    (h : ∀ s ∈ statements, Lexeme.semicolon ∉ s) :
    (statements.flatMap (· ++ [.semicolon])).splitOn .semicolon = statements ++ [[]] := by
  induction statements with
  | nil => rfl
  | cons s statements ih =>
    obtain ⟨hs, h⟩ := List.forall_mem_cons.1 h
    have single : s.splitOnP (· == Lexeme.semicolon) = [s] :=
      List.splitOnP_eq_singleton fun l hl => beq_eq_false_iff_ne.2 fun same => hs (same ▸ hl)
    have first := List.splitOnP_append_cons (p := (· == Lexeme.semicolon)) s
      (statements.flatMap (· ++ [.semicolon])) (beq_self_eq_true Lexeme.semicolon)
    rw [List.flatMap_cons, List.append_assoc, List.singleton_append, List.splitOn, first, single,
      ← List.splitOn, ih h]
    rfl

theorem semicolon_not_mem_callLexemes {function : String} {arguments : List (List Lexeme)}
    (h : ∀ ls ∈ arguments, Lexeme.semicolon ∉ ls) :
    Lexeme.semicolon ∉ callLexemes function arguments := by
  have noName : Lexeme.semicolon ≠ .name function := by
    simp [Lexeme.semicolon, Lexeme.sign, Lexeme.name]
  have inside : Lexeme.semicolon ∉ [Lexeme.sign ","].intercalate arguments := by
    intro mem
    rcases Text.mem_intercalate mem with mem | ⟨ls, hls, mem⟩
    · revert mem
      decide
    · exact h ls hls mem
  simp only [callLexemes, List.cons_append, List.mem_cons, List.mem_append, not_or]
  exact ⟨by decide, noName, by decide, inside, by decide, List.not_mem_nil⟩

mutual

theorem semicolon_not_mem_lexemes : (e : Expr) → Lexeme.semicolon ∉ e.lexemes
  | .name x => by simp [Expr.lexemes, Lexeme.semicolon, Lexeme.sign, Lexeme.name]
  | .text s => by simp [Expr.lexemes, Lexeme.semicolon, Lexeme.sign, Lexeme.quoted]
  | .call receiver function arguments => by
    rw [Expr.lexemes, List.mem_append, not_or]
    exact ⟨semicolon_not_mem_lexemes receiver,
      semicolon_not_mem_callLexemes (semicolon_not_mem_lexemesAll arguments)⟩

theorem semicolon_not_mem_lexemesAll : (es : List Expr) →
    ∀ ls ∈ Expr.lexemesAll es, Lexeme.semicolon ∉ ls
  | [] => by simp [Expr.lexemesAll]
  | e :: es => by
    rw [Expr.lexemesAll, List.forall_mem_cons]
    exact ⟨semicolon_not_mem_lexemes e, semicolon_not_mem_lexemesAll es⟩

end

end ModelCompiler.Source
