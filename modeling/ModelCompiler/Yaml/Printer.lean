import ModelCompiler.Yaml.Style

/-! # The written form of a document -/

namespace ModelCompiler.Yaml

/-- Something to be written. -/
inductive Writing where
  | text (text : String)
  | list (items : List String)
  | pairs (pairs : List (String × Writing))

/-! What has been written is kept with the last character first. -/

/-- What has been written, with a text after it. -/
def put (text : List Char) (out : List Char) : List Char := text.reverse ++ out

/-- What has been written, with a new line begun after it and indented. -/
def newLine (indent : Nat) (out : List Char) : List Char :=
  put (spaces indent) (if out.head?.any fun c => !isBreak c then '\n' :: out else out)

/-- A key and the colon after it. A key that is not simple is marked and its colon begins a line. -/
def writeKey (indent : Nat) (key : String) (out : List Char) : List Char :=
  if isSimpleKey key then ':' :: put (writeScalar (indent + indentStep) true key) out
  else
    ':' :: newLine indent (put (writeScalar (indent + indentStep) false key) (put ['?', ' '] out))

/-- The items of a list, a line each. -/
def writeItems (indent : Nat) (out : List Char) (items : List String) : List Char :=
  items.foldl (fun out item =>
    put (writeScalar (indent + 2) false item) (put ['-', ' '] (newLine indent out))) out

mutual

/-- A value after its key. The first pair of a record stands on the line of a colon that begins
it. -/
def writeValue (indent : Nat) (simple : Bool) (out : List Char) : Writing → List Char
  | .text text => put (writeScalar (indent + indentStep) false text) (put [' '] out)
  | .list items => writeItems (indent + indentStep) out items
  | .pairs [] => put [' ', '\x7b', '\x7d'] out
  | .pairs (p :: ps) =>
    let deeper := indent + indentStep
    let start := if simple then newLine deeper out else put (spaces (indentStep - 1)) out
    writePairs deeper (writePair deeper start p) ps

/-- A pair on a line that has been begun. -/
def writePair (indent : Nat) (out : List Char) : String × Writing → List Char
  | (key, value) => writeValue indent (isSimpleKey key) (writeKey indent key out) value

/-- Pairs, each of which begins a line. -/
def writePairs (indent : Nat) (out : List Char) : List (String × Writing) → List Char
  | [] => out
  | p :: ps => writePairs indent (writePair indent (newLine indent out) p) ps

end

/-- A document that is a record. -/
def writeRecord (pairs : List (String × Writing)) : String :=
  String.ofList (newLine 0 (writePairs 0 [] pairs)).reverse

end ModelCompiler.Yaml
