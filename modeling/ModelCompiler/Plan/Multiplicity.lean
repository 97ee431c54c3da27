/-! # Multiplicities -/

namespace ModelCompiler

/-- A lower and an upper bound as they are written. -/
structure Multiplicity where
  lower : String := ""
  upper : String := ""
deriving DecidableEq, Repr, Inhabited

namespace Multiplicity

/-- The bound of what has no bound. -/
def unlimited : String := "*"

def isMany (m : Multiplicity) : Bool :=
  m.upper == unlimited || (m.upper != "0" && m.upper != "1")

/-- The bounds of an association end: without an upper bound it is unlimited, and without a lower
bound it has as many values as it may have, none if that is unlimited. -/
def ofEnd (lower upper : String) : Multiplicity :=
  let hi := if upper = "" then unlimited else upper
  let lo := if lower = "" then hi else lower
  { lower := if lo = unlimited then "0" else lo, upper := hi }

/-- The bounds of an attribute, which is an optional single value unless it says otherwise. -/
def ofAttribute (lower upper : String) : Multiplicity where
  lower := if lower = "" ∨ lower = unlimited then "0" else lower
  upper := if upper = "" then "1" else upper

end Multiplicity

end ModelCompiler
