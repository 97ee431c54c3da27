import ModelCompiler.Text.Pieces

/-! # Diagnostics -/

namespace ModelCompiler

inductive Severity where
  | info
  | warning
  | error
deriving DecidableEq, Repr

namespace Severity

def labels : List String := ["info", "warning", "error"]

def label : Severity → String
  | .info => "info"
  | .warning => "warning"
  | .error => "error"

end Severity

/-- One finding about a model, with the element and the qualified name that it is about. -/
structure Diagnostic where
  severity : Severity
  code : String
  message : String
  element : String
  subject : String
deriving DecidableEq, Repr

/-- The text on one line: what it is about, its code and its message, leaving out what is empty. -/
def Diagnostic.text (d : Diagnostic) : String :=
  let about := (if d.element = "" then [] else ["[" ++ d.element ++ "]"]) ++
    (if d.subject = "" then [] else [d.subject])
  let body := if d.code = "" then d.message else "[" ++ d.code ++ "] " ++ d.message
  if about.isEmpty then body else Text.joinWith " " about ++ ": " ++ body

/-- Diagnostics by severity, each kind in the order in which it was found. -/
structure Report where
  errors : List Diagnostic := []
  warnings : List Diagnostic := []
  infos : List Diagnostic := []
deriving DecidableEq, Repr

namespace Report

def add (r : Report) (d : Diagnostic) : Report :=
  match d.severity with
  | .error => { r with errors := r.errors ++ [d] }
  | .warning => { r with warnings := r.warnings ++ [d] }
  | .info => { r with infos := r.infos ++ [d] }

def size (r : Report) : Nat := r.errors.length + r.warnings.length + r.infos.length

/-- Errors first, then warnings, then infos. -/
def all (r : Report) : List Diagnostic := r.errors ++ r.warnings ++ r.infos

def withCode (r : Report) (code : String) : List Diagnostic := r.all.filter (·.code == code)

def isValid (r : Report) : Bool := r.errors.isEmpty

/-- The errors as one text, if there are any. -/
def combined? (r : Report) : Option String :=
  if r.isValid then none else some (Text.joinWith "; " (r.errors.map Diagnostic.text))

/-- The report with its warnings turned into errors. -/
def promote (r : Report) : Report where
  errors := r.errors ++ r.warnings.map ({ · with severity := .error })
  warnings := []
  infos := r.infos

@[simp] theorem length_all (r : Report) : r.all.length = r.size := by
  simp [all, size, Nat.add_assoc]

end Report

end ModelCompiler
