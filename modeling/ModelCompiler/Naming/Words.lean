import ModelCompiler.Text.Case

/-! # The words of an identifier -/

namespace ModelCompiler.Naming

open Text

def isSeparator (c : Char) : Bool := c == '_' || c == '-' || c == ' ' || c == '.'

/-- Whether `c` begins a word between its neighbours: at the hump of a camel, and at the last
capital of an acronym. -/
def beginsWord (before c : Char) (after : Option Char) : Bool :=
  isUpper c &&
    ((!isUpper before && !isSeparator before) || (isUpper before && after.any isLower))

/-- A word by itself; the empty word is none. -/
def asWord (word : List Char) : List (List Char) := if word.isEmpty then [] else [word]

/-- The words of a text of which `word` has been begun, after the character `before`. -/
def cutWords (before : Option Char) (word : List Char) : List Char → List (List Char)
  | [] => asWord word
  | c :: cs =>
    if isSeparator c then asWord word ++ cutWords (some c) [] cs
    else if before.any fun b => beginsWord b c cs.head? then
      asWord word ++ cutWords (some c) [c] cs
    else cutWords (some c) (word ++ [c]) cs

/-- The words of an identifier as they are written. -/
def camelWords (cs : List Char) : List (List Char) := cutWords none [] cs

/-- The words of an identifier in lower case. -/
def identWords (s : String) : List String :=
  (camelWords s.toList).map fun w => String.ofList (w.map toLower)

/-- The words of an identifier, in lower case and run together. -/
def normalForm (s : String) : String :=
  String.ofList ((camelWords s.toList).map (·.map toLower)).flatten

end ModelCompiler.Naming
