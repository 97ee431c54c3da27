import ModelCompiler.Text.Letter

/-! # Identifiers of generated code -/

namespace ModelCompiler.Source

/-- The words that are no identifiers. -/
def keywords : List String :=
  ["break", "case", "chan", "const", "continue", "default", "defer", "else", "fallthrough", "for",
   "func", "go", "goto", "if", "import", "interface", "map", "package", "range", "return",
   "select", "struct", "switch", "type", "var"]

def isIdentStart (c : Char) : Bool := c == '_' || Text.isLetter c

def isIdentChar (c : Char) : Bool := c == '_' || Text.isLetter c || Text.isDigit c

/-- Whether characters have the shape of an identifier: letters, digits and underscores, of which a
digit is not the first. -/
def identShape : List Char → Bool
  | [] => false
  | c :: cs => isIdentStart c && cs.all isIdentChar

def isIdentifier (s : String) : Bool := identShape s.toList && !keywords.contains s

/-- The identifier for a name: the name itself if it is one, else the name with underscores for
the characters that an identifier cannot hold, after one more underscore if that is still none. -/
def identifierFor (name : String) : String :=
  if isIdentifier name then name
  else
    let plain := String.ofList (name.toList.map fun c => if isIdentChar c then c else '_')
    if isIdentifier plain then plain else "_" ++ plain

end ModelCompiler.Source
