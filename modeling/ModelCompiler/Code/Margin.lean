import ModelCompiler.Text.Pieces

/-! # The margin of a comment that runs over several lines -/

namespace ModelCompiler.Code.Margin

/-- Whether a character is a space or a control character. -/
def isSpace (c : Char) : Bool := c ≤ ' '

/-- The spaces and stars that two lines begin with. -/
def common : List Char → List Char → List Char
  | a :: as, b :: bs => if a = b ∧ (isSpace a ∨ a = '*') then a :: common as bs else []
  | _, _ => []

/-- What the lines between the first and the last begin with, or else the last line. -/
def shared (inner : List (List Char)) (last : List Char) : List Char :=
  match inner.filter fun l => !l.all isSpace with
  | [] => common last last
  | l :: ls => ls.foldl common (common l l)

/-- The margin without the up to three spaces, or the tab, at its end. -/
def withoutIndent (margin : List Char) : List Char :=
  let spaces := ((margin.reverse.take 3).takeWhile (· == ' ')).length
  if spaces = 0 then Text.dropEnding ['\t'] margin else margin.take (margin.length - spaces)

/-- The space before the text on the first line, with two spaces for the opening of the comment
unless a tab makes up for it. -/
def firstIndent (first : List Char) : List Char :=
  let run := (first.drop 2).takeWhile isSpace
  if run.head? = some '\t' then run else ' ' :: ' ' :: run

/-- What is taken from the beginning of every line but the first, and whether a line of stars runs
down the comment. -/
def ofLines (first : List Char) (inner : List (List Char)) (last : List Char) : List Char × Bool :=
  let shared := shared inner last
  match Text.cut? '*' shared with
  | some (before, _) => (Text.dropEnding [' '] before, true)
  | none =>
    if (first.drop 2).all isSpace then (withoutIndent shared, false)
    else (Text.dropEnding (firstIndent first) shared, false)

/-- The lines of a comment, moved to the margin. -/
def align : List (List Char) → List (List Char)
  | [] => []
  | [line] => [line]
  | first :: second :: rest =>
    let others := second :: rest
    let inner := others.dropLast
    let last := (others.getLast?).getD []
    let (margin, stars) := ofLines first inner last
    let before := ((Text.cutAt? "*/".toList last).map (·.1)).getD last
    let kept := inner.map fun l => if l.all isSpace then [] else l
    if before.all isSpace then
      first :: kept.map (·.drop margin.length) ++ [if stars then " */".toList else "*/".toList]
    else
      let margin := common margin last
      first :: (kept ++ [last]).map (·.drop margin.length)

end ModelCompiler.Code.Margin
