import ModelCompiler.Code.Align
import ModelCompiler.Code.Tree
import Std.Data.HashMap

/-! # Sheets: what has been written of a text

White space is not written at once, because comments that come before the next token have to be
placed in it. -/

namespace ModelCompiler.Code

/-- White space that waits to be written. -/
inductive Gap where
  /-- Nothing. -/
  | ignore
  | blank
  /-- The end of a cell. -/
  | tab
  | newline
  /-- The end of a line and of a section. -/
  | formfeed
  | indent
  | unindent
deriving DecidableEq, Repr, Inhabited

def Gap.isBreak (g : Gap) : Bool := g == .newline || g == .formfeed

/-- What was written last. -/
inductive Mark where
  | gap
  | name
  | integer
  | literal
  | sign (text : String)
  /-- The end of the text. -/
  | ending
deriving DecidableEq, Repr, Inhabited

/-- A part of the source that is measured: where it begins and ends, and how large it may be. -/
structure Extent where
  start : Nat
  stop : Nat
  limit : Nat
deriving DecidableEq, Hashable, Repr, Inhabited

structure Sheet where
  output : Array Sign := #[]
  indent : Int := 0
  /-- How deep lists in braces are nested. -/
  level : Nat := 0
  /-- Whether a comment before a closing brace is kept on its line. -/
  keepsLine : Bool := false
  /-- Whether a comment before a closing brace is followed by it directly. -/
  keepsClose : Bool := false
  /-- Whether the columns end with this line. -/
  endsColumns : Bool := false
  /-- Whether the end of the line would end a statement. -/
  closes : Bool := false
  last : Mark := .gap
  /-- The bracket that was written last, unless something else followed. -/
  opened? : Option String := none
  pending : List Gap := []
  /-- Where comments of the first form of a condition begin. -/
  formulas : List Nat := []
  /-- Where comments of the second form of a condition begin. -/
  wordLines : List Nat := []
  /-- The place in the source that has been reached. -/
  place : Place := { offset := 0, line := 1, column := 1 }
  /-- The line and column that have been reached in the output. -/
  line : Int := 1
  column : Int := 1
  /-- The place in the source after the last token. -/
  lastPlace : Place := {}
  /-- The comments that are still to be written. -/
  comments : List CommentGroup := []
  /-- The lines on which items were written. -/
  notes : Array Int := #[]
  /-- The item on the line of the next token. -/
  noting? : Option Nat := none
  /-- The sizes that are known. -/
  sizes : Std.HashMap Extent Nat := {}
deriving Inhabited

/-- What does not change while a text is written. -/
structure Setting where
  lines : Lines
  /-- The indentation of the whole text. -/
  base : Int := 0
  /-- Whether only the size of the text is asked for. -/
  measuring : Bool := false

/-- Writes on a sheet. -/
abbrev Print := ReaderT Setting (StateM Sheet)

namespace Print

def lineOf (offset : Nat) : Print Int := return (← read).lines.lineOf offset

def placeOf (offset : Nat) : Print Place := return (← read).lines.placeOf offset

def lineOf? (offset? : Option Nat) : Print Int := return (← read).lines.lineOf? offset?

def placeOf? (offset? : Option Nat) : Print Place := return (← read).lines.placeOf? offset?

/-! ## Characters -/

def push (signs : List Sign) : Print Unit :=
  modify fun s => { s with output := signs.foldl Array.push s.output }

/-- Begins a line. -/
def writeIndent : Print Unit := do
  let n := (← read).base + (← get).indent
  push (List.replicate n.toNat (.char '\t'))
  modify fun s =>
    { s with
      place := { s.place with offset := s.place.offset + n, column := s.place.column + n },
      column := s.column + n }

/-- Writes white space. After a text that ended the columns, tabs are blanks up to the end of the
line. -/
def writeSpace (c : Char) (n : Nat) : Print Unit := do
  let ends := (← get).endsColumns
  let isBreak := c == '\n' || c == '\x0c'
  let c := if ends then (if isBreak then '\x0c' else ' ') else c
  if isBreak then modify fun s => { s with endsColumns := false }
  if (← get).column = 1 then writeIndent
  push (List.replicate n (.char c))
  modify fun s =>
    let offset := s.place.offset + (n : Int)
    if isBreak then
      { s with place := { offset, line := s.place.line + n, column := 1 }, line := s.line + n,
               column := 1 }
    else
      { s with place := { s.place with offset, column := s.place.column + n },
               column := s.column + n }

/-- Writes a text from the source, where `quoted` says that it has to stay as it is. -/
def writeText (place : Place) (text : List Char) (quoted : Bool) : Print Unit := do
  if (← get).column = 1 then writeIndent
  if place.isKnown then modify fun s => { s with place }
  push (if quoted then Sign.quoted text else Sign.ofText text)
  let isBreak := fun c : Char => c == '\n' || c == '\x0c'
  let breaks := text.countP isBreak
  let width := byteWidth text
  let tail := byteWidth (text.reverse.takeWhile fun c => !isBreak c)
  modify fun s =>
    let offset := s.place.offset + (width : Int)
    let s := if breaks = 0 then
        { s with place := { s.place with offset, column := s.place.column + width },
                 column := s.column + width }
      else
        { s with place := { offset, line := s.place.line + breaks, column := (tail : Int) + 1 },
                 line := s.line + breaks, column := (tail : Int) + 1, endsColumns := true }
    { s with lastPlace := s.place }

/-! ## White space -/

/-- White space in the order in which it is written: a line break comes after the ends of
indentation that follow it, and ends the section then. -/
def settled : Option Gap → List Gap → List Gap
  | none, [] => []
  | some b, [] => [b]
  | none, g :: gs => if g.isBreak then settled (some g) gs else g :: settled none gs
  | some b, g :: gs =>
    if g = .unindent then .unindent :: settled (some .formfeed) gs
    else if g.isBreak then b :: settled (some g) gs
    else b :: g :: settled none gs

def writeGap : Gap → Print Unit
  | .ignore => return
  | .blank => writeSpace ' ' 1
  | .tab => writeSpace '\x0b' 1
  | .newline => writeSpace '\n' 1
  | .formfeed => writeSpace '\x0c' 1
  | .indent => modify fun s => { s with indent := s.indent + 1 }
  | .unindent => modify fun s => { s with indent := max 0 (s.indent - 1) }

def writeGaps (gs : List Gap) : Print Unit := (settled none gs).forM writeGap

/-- Writes all white space that waits. -/
def writePending : Print Unit := do
  let gs := (← get).pending
  modify fun s => { s with pending := [] }
  writeGaps gs

/-- Remembers a bracket that has just been written. -/
def noteOpened : Print Unit :=
  modify fun s => match s.last with
    | .gap => s
    | .sign text =>
      { s with opened? := if text = "(" ∨ text = "[" then some text else none }
    | _ => { s with opened? := none }

/-- The most white space that waits. -/
def maxPending : Nat := 16

/-- Puts white space before the next token. -/
def gap (g : Gap) : Print Unit := do
  noteOpened
  if g ≠ .ignore then
    if (← get).pending.length = maxPending then writePending
    modify fun s =>
      { s with
        pending := s.pending ++ [g], last := .gap, closes := s.closes && !g.isBreak }

def gaps (gs : List Gap) : Print Unit := gs.forM gap

/-- The most line breaks between two tokens. -/
def maxBreaks : Int := 2

/-- Breaks lines until the given one of the source is reached, but at least `least` times and at
most twice. White space is put before the first break, which ends the section if `sectioned` holds.
The result is zero if no line was broken and one if there was just one plain break. -/
def breakTo (line : Int) (least : Nat) (before : Gap) (sectioned : Bool) : Print Nat := do
  let n := (max (min (line - (← get).place.line) maxBreaks) least).toNat
  if n = 0 then return 0
  gap before
  if sectioned then
    gap .formfeed
    gaps (List.replicate (n - 1) .newline)
    return n + 1
  else
    gaps (List.replicate n .newline)
    return n

/-! ## Lines of the output -/

/-- A note of the line on which an item begins. -/
def newNote : Print Nat := do
  let s ← get
  modify fun s => { s with notes := s.notes.push 0 }
  return s.notes.size

/-- Notes the line of the next token. -/
def note (i : Nat) : Print Unit := modify fun s => { s with noting? := some i }

/-- The number of lines since a note. -/
def linesSince (i : Nat) : Print Int := do
  let s ← get
  return s.line - (s.notes[i]?).getD 0

/-- Goes to a place in the source. -/
def goTo (offset : Nat) : Print Unit := do
  let place ← placeOf offset
  modify fun s => { s with place }

def goTo? : Option Nat → Print Unit
  | some offset => goTo offset
  | none => return

end Print

end ModelCompiler.Code
