/-! # Environments -/

namespace ModelCompiler

/-- Names bound to values. Of two bindings of one name the first counts. -/
structure Environment where
  bindings : List (String × String) := []
deriving DecidableEq, Repr

namespace Environment

/-- The value of a name, empty if it has none. -/
def value (e : Environment) (name : String) : String := (e.bindings.lookup name).getD ""

def bind (e : Environment) (name value : String) : Environment := ⟨(name, value) :: e.bindings⟩

/-- The bindings of `e`, and those of `d` for all other names. -/
def shadowing (e d : Environment) : Environment := ⟨e.bindings ++ d.bindings⟩

theorem value_bind (e : Environment) (n v m : String) :
    (e.bind n v).value m = if m = n then v else e.value m := by
  by_cases h : m = n
  · simp [value, bind, h]
  · have : (m == n) = false := by simpa using h
    simp [value, bind, List.lookup_cons, this, h]

/-! ## References to other values -/

/-- A place in a value where another value may be put in. -/
structure Reference where
  /-- The text of the reference. -/
  text : List Char
  /-- Whether a backslash stands before it. -/
  escaped : Bool
  name : List Char

namespace Reference

def isNameChar (c : Char) : Bool := c.isUpper || c.isDigit || c == '_'

/-- The text with one character less if it begins with that character. -/
def skip (c : Char) : List Char → List Char
  | [] => []
  | d :: ds => if d = c then ds else d :: ds

/-- The reference that begins after a dollar sign. -/
def afterDollar (lead : List Char) (cs : List Char) : Reference :=
  let inner := skip '{' (skip '(' cs)
  let rest := skip '}' (inner.dropWhile isNameChar)
  { text := lead ++ cs.take (cs.length - rest.length)
    escaped := lead.length == 2
    name := inner.takeWhile isNameChar }

/-- The reference at the beginning of a text. -/
def start? : List Char → Option Reference
  | '\\' :: '$' :: cs => some (afterDollar ['\\', '$'] cs)
  | '$' :: cs => some (afterDollar ['$'] cs)
  | _ => none

/-- What stands for a reference in the end. -/
def expansion (e : Environment) (r : Reference) : List Char :=
  if r.escaped then r.text.drop 1
  else if r.name.isEmpty then r.text
  else (e.value (String.ofList r.name)).toList

end Reference

/-- The text with values put in for references, after `skipped` characters that are left out. -/
def expandFrom (e : Environment) : (skipped : Nat) → List Char → List Char
  | _, [] => []
  | n + 1, _ :: cs => expandFrom e n cs
  | 0, c :: cs =>
    match Reference.start? (c :: cs) with
    | some r => r.expansion e ++ expandFrom e (r.text.length - 1) cs
    | none => c :: expandFrom e 0 cs

def expand (e : Environment) (cs : List Char) : List Char := e.expandFrom 0 cs

end Environment

end ModelCompiler
