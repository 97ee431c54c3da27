import ModelCompiler.Text.Pieces

/-! # Paths -/

namespace ModelCompiler.Path

/-- The names of a path, with an empty one where two slashes meet or the path ends with one. -/
def names (path : String) : List String :=
  (Text.splitBy (· == '/') path.toList).map String.ofList

/-- One step of a walk that does not leave its root; the names are those of the place, the last
first. -/
def stepInside (place : List String) (name : String) : List String :=
  if name = "" ∨ name = "." then place
  else if name = ".." then place.tail
  else name :: place

/-- One step of a walk that begins anywhere: it keeps the steps that lead above its beginning. -/
def stepAnywhere (place : List String) (name : String) : List String :=
  if name = ".." ∧ (place.isEmpty ∨ place.head? = some "..") then ".." :: place
  else stepInside place name

/-- The shortest path to the same place, as far as the text alone tells. -/
def clean (path : String) : String :=
  if path.toList.head? = some '/' then
    "/" ++ Text.joinWith "/" ((names path).foldl stepInside []).reverse
  else match (names path).foldl stepAnywhere [] with
    | [] => "."
    | place => Text.joinWith "/" place.reverse

/-- The directory that a path lies in. -/
def directory (path : String) : String :=
  clean (String.ofList (path.toList.reverse.dropWhile (· ≠ '/')).reverse)

/-- Where the draft of a source that could not be formatted is left. -/
def sidecar (path : String) : String :=
  String.ofList (Text.dropEnding ".go".toList path.toList ++ ".unformatted.go".toList)

end ModelCompiler.Path
