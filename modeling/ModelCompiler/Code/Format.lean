import ModelCompiler.Code.Grammar.Programs
import ModelCompiler.Code.Imports
import ModelCompiler.Code.Layout.Statements
import ModelCompiler.Code.Placement

/-! # Formatting

A text that is no whole file may still be a list of declarations, or a list of statements. Such a
text is put into a file, and taken out of it again. -/

namespace ModelCompiler.Code

/-- The text of a tree, with an indentation for all of it. -/
def Program.render (p : Program) (lines : Lines) (base : Int) : List Char :=
  let depth := 4 * lines.size + 16
  let write : Print Unit := do
    (Layouts.upTo depth).program p
    modify fun s => { s with closes := false }
    let _ ← Print.flush Place.atEnd .ending
  let sheet := ((write.run { lines, base }).run { comments := p.comments }).2
  let placement : Placement :=
    { output := sheet.output, formulas := sheet.formulas, wordLines := sheet.wordLines }
  trimmed (aligned placement.placed)

namespace Fragment

/-- Whether a character is white space in a file. -/
def isSpace (c : Char) : Bool := c == ' ' || c == '\t' || c == '\n' || c == '\r'

/-- The space before a text: the lines that are nothing but space, and the beginning of the first
line that is not. -/
def leading (text : List Char) : List Char × List Char :=
  let space := text.takeWhile isSpace
  let first := (space.reverse.takeWhile (· != '\n')).reverse
  (space.take (space.length - first.length), first)

def trailing (text : List Char) : List Char := (text.reverse.takeWhile isSpace).reverse

/-- How far a line is indented: by its tabs, or else once if there are blanks. -/
def indentOf (space : List Char) : Nat :=
  let tabs := space.count '\t'
  if tabs = 0 ∧ space.contains ' ' then 1 else tabs

/-- Puts a formatted text between the space around the source. `extract` takes the text out of its
file, given the indentation of that. -/
def replace (text : List Char) (shift : Int) (render : Int → List Char)
    (extract : Int → List Char → List Char) : List Char :=
  let (lines, first) := leading text
  let indent := indentOf first
  let base := (indent : Int) + shift
  let body := Text.trim (extract base (render base))
  if body.isEmpty then text
  else lines ++ List.replicate indent '\t' ++ body ++ trailing text

def declarationsStart : List Char := "package p;".toList

def statementsStart : List Char := "package p; func _() \x7b".toList

def statementsEnd : List Char := "\n\n\x7d".toList

/-- A text without its first bytes. Each byte that is left of a character counts as one that is
unknown. -/
def dropBytes : Nat → List Char → List Char
  | _, [] => []
  | n, c :: cs =>
    if n = 0 then c :: cs
    else if c.utf8Size ≤ n then dropBytes (n - c.utf8Size) cs
    else List.replicate (c.utf8Size - n) '\ufffd' ++ cs

/-- The declarations of a file that begins with the package clause. -/
def declarationsOf (base : Int) (file : List Char) : List Char :=
  dropBytes (base.toNat + "package p\n".length) file

/-- The statements of the only function of a file. -/
def statementsOf (base : Int) (file : List Char) : List Char :=
  (dropBytes (2 * base.toNat + "package p\n\nfunc _() \x7b".length) file).dropLast.dropLast

end Fragment

/-- The text, formatted as a list of statements. -/
def formatStatements? (text : List Char) : Option (List Char) :=
  let file := Fragment.statementsStart ++ text ++ Fragment.statementsEnd
  match Program.ofText file with
  | .ok p =>
    some (Fragment.replace text (-1) (p.render (Lines.ofText file)) Fragment.statementsOf)
  | .error _ => none

/-- The text, formatted as a list of declarations or of statements. -/
def formatDeclarations? (text : List Char) : Option (List Char) :=
  let file := Fragment.declarationsStart ++ text
  match Program.ofText file with
  | .ok p =>
    some (Fragment.replace text 0 (p.render (Lines.ofText file)) Fragment.declarationsOf)
  | .error f => if f.mentions "expected declaration" then formatStatements? text else none

/-- The text, formatted. There is none if the text is malformed. -/
def format? (text : String) : Option String :=
  let cs := text.toList
  match Program.ofText cs with
  | .ok p =>
    let (p, lines) := p.sorted (Lines.ofText cs)
    some (String.ofList (p.render lines 0))
  | .error f =>
    if f.mentions "expected 'package'" then (formatDeclarations? cs).map String.ofList else none

end ModelCompiler.Code
