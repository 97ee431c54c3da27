/-! # Edit distance

The distance is read off a table of rows. A row belongs to what has been read of the second text
and holds its distance to every beginning of the first. -/

namespace ModelCompiler.Naming

/-- The rest of a row after the entry `left`, from the previous row. -/
def rowTail (d : Char) : List Char → List Nat → Nat → List Nat
  | c :: cs, p :: q :: row, left =>
    let entry := min (min (q + 1) (left + 1)) (p + if c = d then 0 else 1)
    entry :: rowTail d cs (q :: row) entry
  | _, _, _ => []

/-- The row after one more character of the second text. -/
def nextRow (a : List Char) (row : List Nat) (d : Char) : List Nat :=
  match row with
  | [] => []
  | p :: ps => (p + 1) :: rowTail d a (p :: ps) (p + 1)

/-- The row before any character of the second text: a beginning is deleted whole. -/
def firstRow (a : List Char) : List Nat := List.range (a.length + 1)

/-- The last entry of the last row, where rows run along the first text. -/
def tableDistance (a b : List Char) : Nat :=
  ((b.foldl (nextRow a) (firstRow a)).getLast?).getD 0

/-- The number of insertions, deletions and substitutions of single characters between two texts.
The rows run along the shorter of them. -/
def distance (a b : List Char) : Nat :=
  if a = b then 0
  else if a.isEmpty then b.length
  else if b.isEmpty then a.length
  else if a.length > b.length then tableDistance b a
  else tableDistance a b

end ModelCompiler.Naming
