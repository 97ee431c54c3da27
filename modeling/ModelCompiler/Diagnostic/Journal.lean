import ModelCompiler.Diagnostic.Basic

/-! # What is noted down while a model is worked on -/

namespace ModelCompiler

/-- Notices for the generated code, and diagnostics. -/
structure Journal where
  comments : List String := []
  report : Report := {}
deriving DecidableEq, Repr

namespace Journal

def comment (j : Journal) (text : String) : Journal := { j with comments := j.comments ++ [text] }

def add (j : Journal) (d : Diagnostic) : Journal := { j with report := j.report.add d }

def inform (j : Journal) (code message element subject : String) : Journal :=
  j.add { severity := .info, code, message, element, subject }

@[simp] theorem report_comment (j : Journal) (text : String) :
    (j.comment text).report = j.report := rfl

@[simp] theorem comments_add (j : Journal) (d : Diagnostic) : (j.add d).comments = j.comments := rfl

end Journal

end ModelCompiler
