/-! # Labels of numbered things -/

namespace ModelCompiler.Text

/-- The label with a number, counted from zero, if there is one. -/
def labelAt? (labels : List String) (n : Int) : Option String :=
  if n < 0 then none else labels[n.toNat]?

/-- The label with a number; a number beyond the labels is `unknown`. -/
def labelAt (labels : List String) (n : Int) : String := (labelAt? labels n).getD "unknown"

end ModelCompiler.Text
