import ModelCompiler.Element.Graph
import ModelCompiler.Text.Pieces

/-! # Tags carried by applied stereotypes -/

namespace ModelCompiler

/-- The unions that a property subsets and the property that it redefines. -/
structure Tags where
  subsets : List String := []
  redefines : String := ""
deriving DecidableEq, Repr

namespace Tags

/-- The names between the commas; nothing between two commas is no name. -/
def names (value : List Char) : List String :=
  ((Text.splitBy (· == ',') value).filter fun w => !w.isEmpty).map String.ofList

/-- The tags after one more slot. A slot overrides those before it, and blanks do not count. -/
def readSlot (g : Graph) (t : Tags) (slot : Element) : Tags :=
  match g.resolveFirst? slot "definingFeature" with
  | none => t
  | some feature =>
    if feature.name = "subsets" then
      { t with subsets := names (Text.squeeze (slot.text "value").toList) }
    else if feature.name = "redefines" then
      { t with redefines := Text.squeezed (slot.text "value") }
    else t

/-- The tags of applied stereotypes, slot after slot. -/
def read (g : Graph) (stereotypes : List Element) : Tags :=
  (stereotypes.flatMap fun s => g.resolve s "slot").foldl (readSlot g) {}

end Tags

/-- Tags under qualified names. -/
abbrev TagTable := List (String × Tags)

/-- The table with an entry put in or replaced. -/
def TagTable.put (name : String) (t : Tags) : TagTable → TagTable
  | [] => [(name, t)]
  | (n, u) :: rest => if n = name then (n, t) :: rest else (n, u) :: put name t rest

end ModelCompiler
