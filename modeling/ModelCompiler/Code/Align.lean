/-! # Columns

What has been written consists of cells. A cell that a tab ends belongs to a column together with
the cells above and below it, and the cells of a column are made equally wide. Text between two
quotes is taken as it is. -/

namespace ModelCompiler.Code

/-- What is written: characters, and quotes around text that is to stay as it is. -/
inductive Sign where
  | quote
  | char (c : Char)
deriving DecidableEq, Repr, Inhabited

namespace Sign

def ofText (cs : List Char) : List Sign := cs.map .char

/-- A text between quotes. -/
def quoted (cs : List Char) : List Sign := .quote :: ofText cs ++ [.quote]

/-- Whether a line ends here. -/
def isBreak : Sign → Bool
  | .char c => c == '\n' || c == '\x0c'
  | .quote => false

end Sign

/-! ## Cells -/

structure Cell where
  signs : List Sign := []
  /-- The number of its characters. -/
  width : Nat := 0
  /-- Whether its column stays even if all cells in it are empty. -/
  hard : Bool := false
deriving DecidableEq, Repr, Inhabited

/-- The lines of a section. -/
abbrev Grid := List (List Cell)

/-- A text that is being divided into cells. -/
structure Division where
  /-- The finished sections, the last of which comes first. -/
  grids : List Grid := []
  /-- The finished lines of this section, the last of which comes first. -/
  lines : Grid := []
  /-- The finished cells of this line, the last of which comes first. -/
  cells : List Cell := []
  /-- The signs of this cell, the last of which comes first. -/
  signs : List Sign := []
  width : Nat := 0
  /-- Whether text between quotes is read. -/
  quoted : Bool := false

namespace Division

def endCell (d : Division) (hard : Bool) : Division :=
  { d with
    cells := { signs := d.signs.reverse, width := d.width, hard } :: d.cells, signs := [],
    width := 0 }

def endLine (d : Division) : Division :=
  { d with lines := d.cells.reverse :: d.lines, cells := [] }

def endSection (d : Division) : Division :=
  { d with grids := d.lines.reverse :: d.grids, lines := [] }

def add (d : Division) (s : Sign) : Division :=
  match s with
  | .quote => { d with signs := s :: d.signs, quoted := !d.quoted }
  | .char c =>
    if d.quoted then { d with signs := s :: d.signs, width := d.width + 1 }
    else if c = '\t' then d.endCell true
    else if c = '\x0b' then d.endCell false
    else if c = '\n' then (d.endCell false).endLine
    else if c = '\x0c' then (d.endCell false).endLine.endSection
    else { d with signs := s :: d.signs, width := d.width + 1 }

end Division

/-- The sections of a text. Its last line is the one that no line break ends. -/
def divided (signs : List Sign) : List Grid :=
  let d := signs.foldl Division.add {}
  let d := if d.signs.isEmpty then d else d.endCell false
  d.endLine.endSection.grids.reverse

/-! ## Widths -/

/-- Runs of neighbours on which `p` agrees. -/
def grouped {α : Type} (p : α → Bool) : List α → List (Bool × List α)
  | [] => []
  | a :: as => match grouped p as with
    | (b, group) :: groups =>
      if p a = b then (b, a :: group) :: groups else (p a, [a]) :: (b, group) :: groups
    | [] => [(p a, [a])]

/-- The width of a column: that of its widest cell and one more, or zero if all of its cells are
empty and none of them is hard. -/
def columnWidth (cells : List Cell) : Nat :=
  if cells.all fun c => c.width == 0 && !c.hard then 0
  else (cells.map (·.width)).foldl max 0 + 1

/-- Whether the first cell of a line is in a column, which the last cell of a line is not. -/
def startsColumn : List Cell → Bool
  | _ :: _ :: _ => true
  | _ => false

/-- The widths of the columns, line by line. -/
def columnWidths : Nat → Grid → List (List Nat)
  | 0, lines => lines.map fun _ => []
  | fuel + 1, lines =>
    (grouped startsColumn lines).flatMap fun (inColumn, lines) =>
      if inColumn then
        let width := columnWidth (lines.filterMap List.head?)
        (columnWidths fuel (lines.map List.tail)).map (width :: ·)
      else lines.map fun _ => []

/-! ## Lines -/

/-- The number of columns between two tab stops. -/
def tabWidth : Nat := 8

/-- A line with its cells filled up. Empty cells at its beginning are filled with tabs. -/
def filled : Bool → List Cell → List Nat → List Sign
  | _, [], _ => []
  | leading, c :: cs, widths =>
    let leading := leading && c.signs.isEmpty
    let padding := match widths.head? with
      | none => []
      | some w =>
        if leading then List.replicate ((w + tabWidth - 1) / tabWidth) (Sign.char '\t')
        else List.replicate (w - c.width) (.char ' ')
    c.signs ++ padding ++ filled leading cs widths.tail

def gridLines (lines : Grid) : List (List Sign) :=
  let fuel := (lines.map (·.length)).foldl max 0
  (lines.zip (columnWidths fuel lines)).map fun (line, widths) => filled true line widths

/-- The text with all cells filled up. -/
def aligned (signs : List Sign) : List Sign :=
  [Sign.char '\n'].intercalate ((divided signs).flatMap gridLines)

/-! ## Space at the end of a line -/

/-- A text that is being rid of space at the end of its lines. -/
structure Trimming where
  /-- The text so far, the last character of which comes first. -/
  done : List Char := []
  /-- The space after that, the last character of which comes first. -/
  space : List Char := []
  quoted : Bool := false

namespace Trimming

def add (t : Trimming) (s : Sign) : Trimming :=
  match s with
  | .quote =>
    if t.quoted then { t with quoted := false }
    else { done := t.space ++ t.done, space := [], quoted := true }
  | .char c =>
    if t.quoted then { t with done := c :: t.done }
    else if c = '\t' ∨ c = '\x0b' then { t with space := '\t' :: t.space }
    else if c = ' ' then { t with space := c :: t.space }
    else if c = '\n' ∨ c = '\x0c' then { t with done := '\n' :: t.done, space := [] }
    else { t with done := c :: (t.space ++ t.done), space := [] }

end Trimming

/-- The text without quotes and without space at the end of its lines. -/
def trimmed (signs : List Sign) : List Char := (signs.foldl Trimming.add {}).done.reverse

end ModelCompiler.Code
