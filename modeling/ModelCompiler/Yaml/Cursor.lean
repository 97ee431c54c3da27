/-! # Positions in a document, and the classes of its characters -/

namespace ModelCompiler.Yaml

/-! ## Characters -/

/-- The characters that a document may hold. -/
def isAllowed (c : Char) : Bool :=
  c == '\t' || c == '\n' || c == '\r' || c == '\x85' || (0x20 ≤ c.toNat && c.toNat ≤ 0x7E) ||
    (0xA0 ≤ c.toNat && c.toNat ≤ 0xD7FF) || (0xE000 ≤ c.toNat && c.toNat ≤ 0xFFFD) ||
    0x10000 ≤ c.toNat

/-- The mark that a text may begin with and that is no part of it. -/
def byteOrderMark : Char := '\ufeff'

def isBreak (c : Char) : Bool :=
  c == '\n' || c == '\r' || c == '\x85' || c == '\u2028' || c == '\u2029'

def isBlank (c : Char) : Bool := c == ' ' || c == '\t'

/-- Whether a word ends here: at a blank, at a line break and at the end of the document. -/
def isEnd : Option Char → Bool
  | none => true
  | some c => isBlank c || isBreak c

/-- Whether a line ends here. -/
def isLineEnd : Option Char → Bool
  | none => true
  | some c => isBreak c

/-- The characters of anchors and of the handles of tags. -/
def isWordChar (c : Char) : Bool := c.isAlphanum || c == '_' || c == '-'

/-! ## Windows

A text is taken in chunk by chunk, so that what comes after the first document and is never looked
at cannot make it malformed. A window is the part that has been taken in and is still held. It is
moved up to the position whenever more characters are needed than it has ahead. -/

structure Window where
  /-- The characters from the position on that have been taken in. -/
  ahead : Nat := 0
  /-- The sizes of the chunks that follow. -/
  chunks : List Nat := []
  /-- Whether something that is not allowed comes after the chunks. -/
  faulty : Bool := false
  /-- Whether that has been met. -/
  failed : Bool := false
  /-- Whether the window begins with a byte order mark. -/
  marked : Bool := false
deriving DecidableEq, Repr

namespace Window

/-- Takes in chunks until `n` characters are ahead. The end of the text counts as one. -/
def fill (n : Nat) (w : Window) : List Nat → Nat → Window
  | [], ahead =>
    if n ≤ ahead then { w with ahead, chunks := [] }
    else if w.faulty then { w with ahead, chunks := [], failed := true }
    else { w with ahead := ahead + 1, chunks := [] }
  | size :: chunks, ahead =>
    if n ≤ ahead then { w with ahead, chunks := size :: chunks }
    else fill n w chunks (ahead + size)

/-- The most bytes that a chunk may have. -/
def chunkBytes : Nat := 512

/-- The sizes of the chunks of a text, the first of which has room for some bytes. -/
def chunkSizes : Nat → Nat → List Char → List Nat
  | _, 0, [] => []
  | _, size, [] => [size]
  | room, size, c :: cs =>
    if c.utf8Size ≤ room then chunkSizes (room - c.utf8Size) (size + 1) cs
    else size :: chunkSizes (chunkBytes - c.utf8Size) 1 cs

/-- The chunks before the first one that holds a character that is not allowed. -/
def soundChunks : List Nat → List Char → List Nat
  | [], _ => []
  | size :: sizes, cs =>
    if (cs.take size).all isAllowed then size :: soundChunks sizes (cs.drop size) else []

/-- The window on a text before any of it is taken in; `room` is that of the first chunk. -/
def start (room : Nat) (cs : List Char) : Window :=
  let sizes := chunkSizes room 0 cs
  let sound := soundChunks sizes cs
  { chunks := sound, faulty := sound.length < sizes.length }

end Window

/-! ## Positions -/

/-- What is left of a document, and where that begins. -/
structure Cursor where
  rest : List Char
  index : Nat := 0
  line : Nat := 0
  column : Nat := 0
  /-- The line breaks since the last character that is not a blank. -/
  breaks : Nat := 0
  window : Window := {}
deriving DecidableEq, Repr

namespace Cursor

/-- The beginning of a text. A byte order mark there does not count. -/
def ofText (text : List Char) : Cursor :=
  match text with
  | c :: cs =>
    if c = byteOrderMark then
      { rest := cs, window := .start (Window.chunkBytes - c.utf8Size) cs }
    else { rest := c :: cs, window := .start Window.chunkBytes (c :: cs) }
  | [] => { rest := [] }

def head? (c : Cursor) : Option Char := c.rest.head?

/-- The character after `n` others. -/
def peek? (c : Cursor) (n : Nat) : Option Char := c.rest[n]?

/-- Whether the next character is `x`. -/
def sees (c : Cursor) (x : Char) : Bool := c.head? == some x

/-- Whether the next character is one of the class. -/
def seesAny (c : Cursor) (p : Char → Bool) : Bool := c.head?.any p

/-- The same position, with at least `n` characters taken in. -/
def need (c : Cursor) (n : Nat) : Cursor :=
  if n ≤ c.window.ahead then c
  else
    let w := { c.window with marked := c.sees byteOrderMark }
    { c with window := w.fill n w.chunks w.ahead }

/-- The position after one character, which does not end a line. -/
def skip (c : Cursor) : Cursor :=
  { rest := c.rest.drop 1, index := c.index + 1, line := c.line, column := c.column + 1
    breaks := if c.seesAny isBlank then c.breaks else 0
    window := { c.window with ahead := c.window.ahead - 1 } }

/-- The position after `n` characters of one line. -/
def skipMany : Nat → Cursor → Cursor
  | 0, c => c
  | n + 1, c => skipMany n c.skip

/-- The position after `n` characters of one line, with `k` others taken in after each of them. -/
def pass (k : Nat) : Nat → Cursor → Cursor
  | 0, c => c
  | n + 1, c => pass k n (c.skip.need k)

/-- The characters of a class that stand here in a row, and the position after them. -/
def span (c : Cursor) (p : Char → Bool) : List Char × Cursor :=
  let run := c.rest.takeWhile p
  (run, c.pass 1 run.length)

def skipWhile (c : Cursor) (p : Char → Bool) : Cursor := (c.span p).2

/-- The position at the end of the line. -/
def toLineEnd (c : Cursor) : Cursor := c.skipWhile fun x => !isBreak x

/-- The line break here, if there is one, and the position after it. All breaks but those of
Unicode are line feeds. -/
def lineBreak? (c : Cursor) : Option (Char × Cursor) :=
  let after (n : Nat) : Cursor :=
    { rest := c.rest.drop n, index := c.index + n, line := c.line + 1, column := 0
      breaks := c.breaks + 1, window := { c.window with ahead := c.window.ahead - n } }
  match c.rest with
  | '\r' :: '\n' :: _ => some ('\n', after 2)
  | x :: _ =>
    if x = '\u2028' ∨ x = '\u2029' then some (x, after 1)
    else if isBreak x then some ('\n', after 1)
    else none
  | [] => none

/-- The position after the line break here, if there is one. -/
def skipBreak (c : Cursor) : Cursor :=
  if c.seesAny isBreak then (((c.need 2).lineBreak?).map (·.2)).getD c else c

/-- Whether the line begins here with a marker and a blank or nothing after it. -/
def atMarker (c : Cursor) (marker : String) : Bool :=
  c.column == 0 && marker.toList.isPrefixOf c.rest && isEnd (c.peek? 3)

/-- Whether a document begins or ends on this line. -/
def atDocumentMarker (c : Cursor) : Bool := c.atMarker "---" || c.atMarker "..."

/-! ## Comments -/

/-- Takes in what it takes to look past `n` characters, one after the other, from the `k`th on. -/
def lookPast (k : Nat) : Nat → Cursor → Cursor
  | 0, c => c
  | n + 1, c => lookPast (k + 1) n (c.need (k + 1))

/-- How far a comment is looked for. -/
def commentReach : Nat := 512

/-- The position after the comment on this line, if only blanks stand before it. What ended a line
has no such comment. -/
def skipLineComment (c : Cursor) : Cursor :=
  if 0 < c.breaks then c
  else
    let blanks := (c.rest.takeWhile isBlank).length
    let c := c.lookPast 0 (min (blanks + 1) commentReach)
    if blanks < commentReach ∧ c.peek? blanks = some '#' then
      ((c.skipWhile isBlank).toLineEnd).need 1
    else c

/-- The position after the blanks and line breaks here; there are at most `fuel` of them. -/
def skipGap : Nat → Cursor → Cursor
  | 0, c => c
  | fuel + 1, c =>
    if c.seesAny isBreak then skipGap fuel (c.skipBreak.need 1)
    else if c.seesAny isBlank then skipGap fuel (c.skip.need 1)
    else c

/-- The position after the comment here and all comments that only blanks and line feeds divide
from it; there are at most `fuel` of them. -/
def skipComments : Nat → Cursor → Cursor
  | 0, c => c
  | fuel + 1, c =>
    let c := (c.need 1).toLineEnd.need 1
    let isFeed (x : Char) : Bool := x == '\n' || x == '\r'
    let gap := if c.seesAny isFeed then
        1 + ((c.rest.drop 1).takeWhile fun x => isBlank x || isFeed x).length
      else 1
    let c := c.lookPast 1 (min gap (commentReach - 1))
    if gap < commentReach ∧ c.seesAny isFeed ∧ c.peek? gap = some '#' then
      skipComments fuel (c.skipGap gap)
    else c

end Cursor

end ModelCompiler.Yaml
