import ModelCompiler.Plan.Basic

/-! # Listings of association ends -/

namespace ModelCompiler

/-- What a listing shows of an association end. -/
structure EndSummary where
  property : String
  qualified : String := ""
  role : Role
  bounds : Multiplicity := { lower := "", upper := "" }
  composite : Bool := false
  subsets : List String := []
  redefines : String := ""
deriving DecidableEq, Repr

namespace EndSummary

/-- Of an end that cannot be navigated to, only the property and the role are shown. -/
def ofEnd (e : End) : EndSummary :=
  if e.navigable then
    { property := e.property
      qualified := e.qualified
      role := e.role
      bounds := e.bounds
      composite := e.composite
      subsets := e.subsets
      redefines := e.redefines }
  else { property := e.property, role := e.role }

/-- A text with its size in bytes. -/
def sized (s : String) : String :=
  let size := if s = "" then "" else "(len=" ++ toString s.utf8ByteSize ++ ") "
  "(string) " ++ size ++ Text.quote s

/-- Items between braces, each on a line of its own. -/
def block (indent : String) (items : List String) : String :=
  let lines := items.map fun item => indent ++ "  " ++ item
  "\x7b\n" ++ (if items.isEmpty then "" else Text.joinWith ",\n" lines ++ "\n") ++ indent ++ "\x7d"

def sizedList (indent : String) (l : List String) : String :=
  if l.isEmpty then "([]string) <nil>"
  else "([]string) (len=" ++ toString l.length ++ ") " ++ block indent (l.map sized)

def text (indent : String) (s : EndSummary) : String :=
  "(main.endSummary) " ++ block indent
    ["Property: " ++ sized s.property,
     "End: " ++ sized s.qualified,
     "Classification: " ++ sized s.role.label,
     "Lower: " ++ sized s.bounds.lower,
     "Upper: " ++ sized s.bounds.upper,
     "Composite: (bool) " ++ toString s.composite,
     "Subsets: " ++ sizedList (indent ++ "  ") s.subsets,
     "Redefines: " ++ sized s.redefines]

/-- Association ends as a text. -/
def listing (ends : List EndSummary) : String :=
  let size := if ends.isEmpty then "" else "(len=" ++ toString ends.length ++ ") "
  "([]main.endSummary) " ++ size ++ block "" (ends.map (text "  ")) ++ "\n"

end EndSummary

/-- What a listing shows of the association ends of a plan. -/
def Plan.summaries (p : Plan) : List EndSummary := p.ends.map .ofEnd

end ModelCompiler
