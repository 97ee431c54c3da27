/-! # Places in a text

A place is given by the number of bytes before it. Lines and columns follow from where the lines of
the text begin. -/

namespace ModelCompiler.Code

/-- The number of bytes of a text. -/
def byteWidth (cs : List Char) : Nat := cs.foldl (fun n c => n + c.utf8Size) 0

/-- A place with its line and column, which are counted from one. The line of an unknown place is
zero. -/
structure Place where
  offset : Int := 0
  line : Int := 0
  column : Int := 0
deriving DecidableEq, Repr, Inhabited

namespace Place

def isKnown (p : Place) : Bool := 0 < p.line

/-- The place after the whole text. -/
def atEnd : Place := { offset := 0x40000000, line := 0x40000000, column := 0 }

end Place

/-- Where the lines of a text begin. -/
structure Lines where
  starts : Array Nat := #[0]
  size : Nat := 0
deriving DecidableEq, Repr, Inhabited

namespace Lines

/-- The places after the line feeds of a text, the first character of which stands at `offset`. -/
def startsFrom : Nat → List Char → List Nat
  | _, [] => []
  | offset, c :: cs =>
    if c = '\n' then (offset + 1) :: startsFrom (offset + 1) cs
    else startsFrom (offset + c.utf8Size) cs

/-- The lines of a text. What follows the last line feed is a line only if it is not empty. -/
def ofText (cs : List Char) : Lines :=
  let size := byteWidth cs
  { starts := (0 :: (startsFrom 0 cs).filter (· < size)).toArray, size }

/-- The last line from `low` on and before `high` that does not begin after `offset`. -/
def search (starts : Array Nat) (offset : Nat) : Nat → Nat → Nat → Nat
  | 0, low, _ => low
  | fuel + 1, low, high =>
    if high ≤ low + 1 then low
    else
      let middle := (low + high) / 2
      if starts[middle]?.getD 0 ≤ offset then search starts offset fuel middle high
      else search starts offset fuel low middle

/-- The number of lines before that of an offset. -/
def indexOf (l : Lines) (offset : Nat) : Nat :=
  search l.starts offset l.starts.size 0 l.starts.size

/-- The line of an offset, counted from one. -/
def lineOf (l : Lines) (offset : Nat) : Int :=
  if l.size < offset then 0 else (l.indexOf offset : Int) + 1

def placeOf (l : Lines) (offset : Nat) : Place :=
  if l.size < offset then {}
  else
    let i := l.indexOf offset
    { offset, line := (i : Int) + 1, column := (offset : Int) - l.starts[i]?.getD 0 + 1 }

/-- The place of an offset that need not be given. -/
def placeOf? (l : Lines) : Option Nat → Place
  | some offset => l.placeOf offset
  | none => {}

def lineOf? (l : Lines) : Option Nat → Int
  | some offset => l.lineOf offset
  | none => 0

def isStart (l : Lines) (offset : Nat) : Bool := l.starts.contains offset

/-- Joins a line with the one after it. -/
def merge (l : Lines) (line : Nat) : Lines :=
  { l with starts := (l.starts.toList.eraseIdx line).toArray }

end Lines

end ModelCompiler.Code
