import ModelCompiler.Code.Directive
import ModelCompiler.Code.Literal
import ModelCompiler.Code.Place
import ModelCompiler.Text.Letter

/-! # The tokens of a text

A text that is malformed has the tokens before the first fault. -/

namespace ModelCompiler.Code

/-- The mark that only stands before all else. -/
def byteOrderMark : Char := '\ufeff'

def isNameStart (c : Char) : Bool :=
  c == '_' || if c.toNat < 0x80 then c.isAlpha else Text.isLetter c

def isNameChar (c : Char) : Bool :=
  isNameStart c || if c.toNat < 0x80 then c.isDigit else Text.isDigit c

/-- Where a text says that something comes from. A column that is unknown is zero. -/
structure Origin where
  file : String := ""
  line : Int := 0
  column : Int := 0
deriving DecidableEq, Repr, Inhabited

/-- From an offset on, lines are counted from those of this origin. -/
structure Shift where
  offset : Nat
  origin : Origin
deriving DecidableEq, Repr, Inhabited

/-- What is wrong with a text, and where. -/
structure Fault where
  origin : Origin := {}
  message : String
deriving DecidableEq, Repr, Inhabited

/-- What has been read of a text. -/
structure Scan where
  /-- The tokens, the last of which comes first. -/
  tokens : List Token := []
  /-- The changes of the numbers of lines, the last of which comes first. -/
  shifts : List Shift := []
  /-- The first fault. -/
  fault? : Option Fault := none
deriving DecidableEq, Repr, Inhabited

namespace Scan

/-! ## Comments -/

/-- The text of a block without its carriage returns, apart from those that keep a star from the
slash after it; `kept` is what has been kept, the last character first. -/
def dropReturns (kept : List Char) : List Char → List Char
  | [] => kept.reverse
  | c :: cs =>
    if c = '\r' ∧ !(2 < kept.length && kept.head? == some '*' && cs.head? == some '/') then
      dropReturns kept cs
    else dropReturns (c :: kept) cs

/-- A comment at the beginning of a text, and the rest; `some none` if it has no end. -/
def comment? : List Char → Option (Option (List Char × List Char))
  | '/' :: '/' :: rest =>
    some (some ('/' :: '/' :: rest.takeWhile (· != '\n'), rest.dropWhile (· != '\n')))
  | '/' :: '*' :: rest =>
    some ((Text.cutAt? "*/".toList rest).map fun (text, rest) =>
      ('/' :: '*' :: text ++ ['*', '/'], rest))
  | _ => none

/-- The text of a comment as it is kept. -/
def keptComment (text : List Char) : List Char :=
  if "/*".toList.isPrefixOf text then dropReturns [] text else text.filter (· != '\r')

/-- The place of the first line feed in a text that begins at `offset`. -/
def firstBreak? (offset : Nat) (text : List Char) : Option Nat :=
  (Text.cut? '\n' text).map fun (before, _) => offset + byteWidth before

/-! ## Tokens -/

/-- A word, a name or a sign at the beginning of a text, and the rest. -/
def plainToken? (cs : List Char) : Option (Kind × List Char × List Char) :=
  if cs.head?.any isNameStart then
    let text := cs.takeWhile isNameChar
    let kind := if words.any (·.toList == text) then Kind.word else .name
    some (kind, text, cs.dropWhile isNameChar)
  else
    (signs.find? (·.toList.isPrefixOf cs)).map fun s => (.sign, s.toList, cs.drop s.toList.length)

/-- A token at the beginning of a text, and the rest. -/
def token? (cs : List Char) : Option (Kind × List Char × List Char) :=
  match literal? cs with
  | some result => result
  | none => plainToken? cs

/-- A semicolon that stands for the end of a line. -/
def impliedSemicolon (offset stop : Nat) : Token :=
  { kind := .sign, text := [';'], start := offset, stop, implied := true }

/-- Whether a character lies between tokens, where `closing` says that a line feed does not. -/
def isGap (closing : Bool) (c : Char) : Bool :=
  c == ' ' || c == '\t' || c == '\r' || (c == '\n' && !closing)

/-- A scan that ends with a fault. -/
def failed (s : Scan) (message : String) : Scan := { s with fault? := some { message } }

/-- A scan that ends because of a character that may not stand where it does. -/
def interrupted (s : Scan) : Scan := s.failed "illegal character"

/-- A scan that ends at something that is not a token. -/
def derailed (s : Scan) : Scan := s.failed "malformed token"

/-- A scan after a comment that numbers the lines from the offset `after` on. -/
def shifted (s : Scan) (lines : Lines) (after : Nat) (file? : Option String) (line column : Int) :
    Scan :=
  if after < lines.size then
    let file := file?.getD ((s.shifts.head?.map (·.origin.file)).getD "")
    { s with shifts := ⟨after, ⟨file, line, column⟩⟩ :: s.shifts }
  else s

/-- Reads the tokens of a text that begins at `offset`; `closing` says whether the end of the line
ends a statement, and from `limit` on there are characters that may not stand in a text. -/
def readFrom (lines : Lines) (limit : Nat) : Nat → Bool → Nat → List Char → Scan → Scan
  | 0, _, _, _, s => s.derailed
  | fuel + 1, closing, offset, cs, s =>
    match cs with
    | [] =>
      if closing then
        readFrom lines limit fuel false offset []
          { s with tokens := impliedSemicolon offset offset :: s.tokens }
      else
        { s with tokens := { kind := .ending, text := [], start := offset, stop := offset } ::
            s.tokens }
    | c :: rest =>
      if isGap closing c then readFrom lines limit fuel closing (offset + c.utf8Size) rest s
      else if c = '\n' then
        if limit ≤ offset + 1 then s.interrupted
        else readFrom lines limit fuel false (offset + 1) rest
          { s with tokens := impliedSemicolon offset (offset + 1) :: s.tokens }
      else match comment? cs with
        | some none => s.derailed
        | some (some (text, rest)) =>
          let stop := offset + byteWidth text
          let after := if "//".toList.isPrefixOf text && !rest.isEmpty then stop + 1 else stop
          if limit ≤ stop then s.interrupted
          else
            let kept := keptComment text
            let token : Token := { kind := .comment, text := kept, start := offset, stop }
            let s := { s with tokens := token :: s.tokens }
            match Numbering.ofComment (lines.isStart offset) text with
            | .malformed message => s.failed message
            | numbering =>
              let s := match numbering with
                | .next file? line column => s.shifted lines after file? line column
                | _ => s
              match (if closing then firstBreak? offset text else none) with
              | some place =>
                readFrom lines limit fuel false stop rest
                  { s with tokens := impliedSemicolon place (place + 1) :: s.tokens }
              | none => readFrom lines limit fuel closing stop rest s
        | none => match token? cs with
          | none => s.derailed
          | some (kind, text, rest) =>
            let stop := offset + byteWidth text
            if limit ≤ stop then s.interrupted
            else
              let token : Token := { kind, text := keptLiteral text, start := offset, stop }
              readFrom lines limit fuel token.closes stop rest
                { s with tokens := token :: s.tokens }

/-- The offset of the first character that may not stand where it does, or the size of the text and
one more. -/
def limitFrom : Nat → List Char → Nat
  | offset, [] => offset + 1
  | offset, c :: cs =>
    if c = '\x00' ∨ (c = byteOrderMark ∧ 0 < offset) then offset
    else limitFrom (offset + c.utf8Size) cs

/-- The tokens of a text, in order. -/
def ofText (cs : List Char) : Scan :=
  let lines := Lines.ofText cs
  let (offset, rest) := match cs with
    | c :: rest => if c = byteOrderMark then (c.utf8Size, rest) else (0, cs)
    | [] => (0, [])
  let s := readFrom lines (limitFrom 0 cs) (2 * cs.length + 2) false offset rest {}
  { s with tokens := s.tokens.reverse }

end Scan

/-- Where an offset of a text comes from, if comments number its lines as given. A column that is
given counts up to the end of its line. -/
def Lines.originOf (l : Lines) (shifts : List Shift) (offset : Nat) : Origin :=
  let place := l.placeOf (min offset l.size)
  match shifts.find? (·.offset ≤ offset) with
  | some s =>
    let passed := place.line - l.lineOf s.offset
    let column := if s.origin.column = 0 then 0
      else if passed = 0 then s.origin.column + ((min offset l.size : Nat) - s.offset : Int)
      else place.column
    { s.origin with line := s.origin.line + passed, column }
  | none => { line := place.line, column := place.column }

namespace Fault

/-- Whether a fault comes before another one: by the text it is in, then by line and column, and
then by what is said about it. -/
def isBefore (f g : Fault) : Bool :=
  if f.origin.file ≠ g.origin.file then f.origin.file < g.origin.file
  else if f.origin.line ≠ g.origin.line then f.origin.line < g.origin.line
  else if f.origin.column ≠ g.origin.column then f.origin.column < g.origin.column
  else f.message < g.message

/-- The first of some faults. -/
def first? (faults : List Fault) : Option Fault :=
  faults.foldl (fun first? f => match first? with
    | some g => if f.isBefore g then some f else some g
    | none => some f) none

/-- Whether the report of a fault has a text in it. -/
def mentions (f : Fault) (text : String) : Bool :=
  [f.origin.file, f.message].any fun s => (Text.cutAt? text.toList s.toList).isSome

end Fault

end ModelCompiler.Code
