import ModelCompiler.Naming.Distance
import ModelCompiler.Naming.Words

/-! # Names ranked by their likeness to a wanted one -/

namespace ModelCompiler.Naming

/-- One less the distance as a part of the longer text. -/
def similarity (a b : String) : Float :=
  let longest := max a.toList.length b.toList.length
  if longest = 0 then 1.0
  else 1.0 - Float.ofNat (distance a.toList b.toList) / Float.ofNat longest

/-- The similarity of two identifiers, apart from case and separators. -/
def nameSimilarity (a b : String) : Float := similarity (normalForm a) (normalForm b)

/-- A known name and its likeness to the wanted one. -/
structure Candidate where
  name : String
  score : Float

namespace Candidate

/-- The higher score goes first, and of equal scores the lesser name. -/
def precedes (a b : Candidate) : Bool :=
  if a.score != b.score then b.score < a.score else a.name < b.name

end Candidate

/-- Every known name once, the likest first. -/
def rank (want : String) (names : List String) : List Candidate :=
  (names.eraseDups.map fun n => ⟨n, nameSimilarity want n⟩).mergeSort fun a b => !b.precedes a

/-- What a candidate needs to be taken for the name that was meant. -/
structure Confidence where
  minScore : Float := 0.6
  minGap : Float := 0.1

/-- The first candidate, if its score is high enough and far enough from the second. -/
def confident? (limits : Confidence) : List Candidate → Option Candidate
  | [] => none
  | best :: others =>
    if best.score < limits.minScore then none
    else match others with
      | [] => some best
      | next :: _ => if best.score - next.score < limits.minGap then none else some best

/-- The known name that was meant, if one stands out. -/
def suggest? (want : String) (names : List String) : Option String :=
  (confident? {} (rank want names)).map (·.name)

end ModelCompiler.Naming
