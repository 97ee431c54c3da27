import ModelCompiler.Yaml.Scalar
import ModelCompiler.Yaml.Tag

/-! # The tokens of a document

Nesting that is written by indentation is made explicit: a block begins and ends with a token of its
own. A key that is not marked as one is recognized by the colon after it; its marks are then put
before the tokens that it consists of. -/

namespace ModelCompiler.Yaml

/-- Whether a scalar is plain. -/
inductive ScalarStyle where
  | plain
  | other
deriving DecidableEq, Repr

inductive Token where
  | streamStart
  | streamEnd
  | directive (d : Directive)
  | documentStart
  | documentEnd
  | blockSequenceStart
  | blockMappingStart
  | blockEnd
  | flowSequenceStart
  | flowSequenceEnd
  | flowMappingStart
  | flowMappingEnd
  | blockEntry
  | flowEntry
  | key
  | value
  | reference (name : String)
  | anchor (name : String)
  | tag (t : WrittenTag)
  | scalar (style : ScalarStyle) (text : String)
deriving DecidableEq, Repr

/-- A place where an unmarked key may begin. -/
structure KeyPlace where
  /-- Whether a colon can still end the key. -/
  possible : Bool := false
  /-- Whether nothing but a key can begin there. -/
  required : Bool := false
  /-- The number of tokens before it. -/
  token : Nat := 0
  index : Nat := 0
  line : Nat := 0
  column : Nat := 0
deriving DecidableEq, Repr

namespace KeyPlace

/-- Whether a colon at a position can still end the key: it is on the same line and not too far. -/
def reaches (k : KeyPlace) (c : Cursor) : Bool := c.line ≤ k.line && c.index ≤ k.index + 1024

end KeyPlace

/-- How far a document has been scanned. Tokens are given out one by one; those that have been
scanned and not given out wait in a queue. -/
structure Scanner where
  /-- The number of characters. -/
  size : Nat
  cursor : Cursor
  /-- The tokens given out, the last one first, and their number. -/
  given : List Token := []
  count : Nat := 0
  queue : List Token := [.streamStart]
  /-- The column of the innermost block, and those of the blocks around it. -/
  indent : Int := -1
  outer : List Int := []
  /-- Whether an unmarked key may begin here. -/
  keyAllowed : Bool := true
  /-- Where an unmarked key may have begun outside of all brackets, and in each pair of open
  brackets, the innermost last. -/
  keys : Array KeyPlace := #[{}]
  /-- The tokens that have to wait for what becomes of a key, with the number of brackets around
  it. -/
  waiting : List (Nat × Nat) := []
deriving DecidableEq, Repr

namespace Scanner

/-- The number of open brackets. -/
def depth (s : Scanner) : Nat := s.keys.size - 1

def inFlow (s : Scanner) : Bool := 1 < s.keys.size

def push (s : Scanner) (t : Token) : Scanner := { s with queue := s.queue ++ [t] }

def moveTo (s : Scanner) (c : Cursor) : Scanner := { s with cursor := c }

/-- The number of the next token to be scanned. -/
def nextNumber (s : Scanner) : Nat := s.count + s.queue.length

/-! ## Indentation -/

/-- Puts a token where the one with a number is, or after all others if that one has been given
out. -/
def insert (s : Scanner) (number : Nat) (t : Token) : Scanner :=
  if number < s.count then s.push t
  else
    let n := number - s.count
    { s with queue := s.queue.take n ++ [t] ++ s.queue.drop n }

/-- The most blocks, and the most brackets, that may be open at once. -/
def mostOpen : Nat := 10000

/-- Begins a block at a column right of the innermost one; its token gets a number. -/
def openBlock? (s : Scanner) (column number : Nat) (t : Token) : Option Scanner :=
  if !s.inFlow && s.indent < column then
    if mostOpen ≤ s.outer.length then none
    else some { s.insert number t with indent := column, outer := s.indent :: s.outer }
  else some s

/-- Begins a block at the position. -/
def openHere? (s : Scanner) (t : Token) : Option Scanner :=
  s.openBlock? s.cursor.column s.nextNumber t

/-- Ends the blocks right of a column. -/
def closeBlocks (s : Scanner) (column : Int) : Scanner :=
  if s.inFlow then s
  else
    let closed := (s.indent :: s.outer).takeWhile (column < ·)
    let left := (s.indent :: s.outer).drop closed.length
    { s with
      queue := s.queue ++ closed.map fun _ => .blockEnd
      indent := left.head?.getD (-1)
      outer := left.drop 1 }

/-! ## Unmarked keys -/

def currentKey (s : Scanner) : KeyPlace := s.keys.back?.getD {}

def setKey (s : Scanner) (k : KeyPlace) : Scanner := { s with keys := s.keys.pop.push k }

/-- Lets a token wait no longer. -/
def release (s : Scanner) (token : Nat) : Scanner :=
  { s with waiting := s.waiting.filter (·.1 != token) }

/-- Takes back that a key may have begun. -/
def forgetKey (s : Scanner) : Scanner :=
  let k := s.currentKey
  (s.release k.token).setKey { k with possible := false }

/-- Gives up the key that may have begun, unless there has to be one. -/
def dropKey? (s : Scanner) : Option Scanner :=
  let k := s.currentKey
  if !k.possible then some s else if k.required then none else some s.forgetKey

/-- Notes that a key may begin here. -/
def noteKey? (s : Scanner) : Option Scanner :=
  if !s.keyAllowed then some s
  else do
    let c := s.cursor
    let place : KeyPlace :=
      { possible := true, required := !s.inFlow && s.indent == c.column, token := s.nextNumber
        index := c.index, line := c.line, column := c.column }
    let s ← s.dropKey?
    let s := s.release place.token
    let waiting := (place.token, s.depth) :: s.waiting
    some { s.setKey place with waiting }

def allowKey (s : Scanner) (allowed : Bool) : Scanner := { s with keyAllowed := allowed }

/-! ## Between tokens -/

/-- The scanner at the next token. Outside of brackets a tab may not stand where a key may begin.
In a window that begins with a byte order mark, the first character of a line does not count. -/
def toToken : Nat → Scanner → Scanner
  | 0, s => s
  | fuel + 1, s =>
    let c := s.cursor.need 1
    let c := if c.column = 0 ∧ c.window.marked then c.skip.need 1 else c
    let c := c.skipWhile fun x => x == ' ' || (x == '\t' && (s.inFlow || !s.keyAllowed))
    let c := if c.sees '#' then c.skipComments (c.rest.length + 1) else c
    if c.seesAny isBreak then
      toToken fuel { s with cursor := c.skipBreak, keyAllowed := s.keyAllowed || !s.inFlow }
    else { s with cursor := c }

/-! ## Tokens -/

/-- The token of an indicator, which `n` characters stand for. -/
def indicator (s : Scanner) (t : Token) (n : Nat := 1) : Scanner :=
  (s.push t).moveTo (s.cursor.skipMany n)

def documentMarker? (s : Scanner) (t : Token) : Option Scanner := do
  let s ← (s.closeBlocks (-1)).dropKey?
  some ((s.allowKey false).indicator t 3)

def directiveLine? (s : Scanner) : Option Scanner := do
  let s ← (s.closeBlocks (-1)).dropKey?
  let (d, after) ← directive? s.cursor
  some (((s.allowKey false).push (.directive d)).moveTo after)

/-- The end of the text, which ends its last line. -/
def endOfStream? (s : Scanner) : Option Scanner := do
  let c := s.cursor
  let s := s.moveTo (if c.column = 0 then c else { c with column := 0, line := c.line + 1 })
  let s ← (s.closeBlocks (-1)).dropKey?
  some ((s.allowKey false).push .streamEnd)

def openBracket? (s : Scanner) (t : Token) : Option Scanner := do
  let s ← s.noteKey?
  if mostOpen ≤ s.depth then none
  let place : KeyPlace := { token := s.nextNumber }
  some ({ s with keys := s.keys.push place, keyAllowed := true }.indicator t)

/-- The bracket that closes. Neither the key that was begun last between the brackets nor, if there
was none, the opening bracket waits any longer. -/
def closeBracket? (s : Scanner) (t : Token) : Option Scanner := do
  let s ← s.dropKey?
  let s := if s.inFlow then
      let s := s.release s.currentKey.token
      { s with keys := s.keys.pop }
    else s
  some ((s.allowKey false).indicator t)

def comma? (s : Scanner) : Option Scanner := do
  let s ← s.dropKey?
  some ((s.allowKey true).indicator .flowEntry)

def dash? (s : Scanner) : Option Scanner := do
  if !s.inFlow && !s.keyAllowed then none
  let s ← s.openHere? .blockSequenceStart
  let s ← s.dropKey?
  some ((s.allowKey true).indicator .blockEntry)

def question? (s : Scanner) : Option Scanner := do
  if !s.inFlow && !s.keyAllowed then none
  let s ← s.openHere? .blockMappingStart
  let s ← s.dropKey?
  some ((s.allowKey !s.inFlow).indicator .key)

/-- The colon after a key that was not marked as one. -/
def colonAfter? (s : Scanner) (k : KeyPlace) : Option Scanner := do
  let s ← (s.insert k.token .key).openBlock? k.column k.token .blockMappingStart
  some ((s.forgetKey.allowKey false).indicator .value)

/-- The colon after a key that was marked, or after none. -/
def bareColon? (s : Scanner) : Option Scanner := do
  if !s.inFlow && !s.keyAllowed then none
  let s ← s.openHere? .blockMappingStart
  some ((s.allowKey !s.inFlow).indicator .value)

def colon? (s : Scanner) : Option Scanner :=
  let k := s.currentKey
  if !k.possible then s.bareColon?
  else if k.reaches s.cursor then s.colonAfter? k
  else if k.required then none
  else (s.setKey { k with possible := false }).bareColon?

/-- Something that a key may consist of, read by `read?`. -/
def keyPart? {α : Type} (s : Scanner) (read? : Cursor → Option (α × Cursor)) (token : α → Token) :
    Option Scanner := do
  let s ← s.noteKey?
  let (a, after) ← read? s.cursor
  some (((s.allowKey false).push (token a)).moveTo after)

def quotedScalar? (s : Scanner) (single : Bool) : Option Scanner :=
  s.keyPart? (quoted? single) fun text => .scalar .other (String.ofList text)

def blockScalar? (s : Scanner) (literal : Bool) : Option Scanner := do
  let s ← s.dropKey?
  let (text, after) ← block? literal s.indent s.cursor
  some (((s.allowKey true).push (.scalar .other (String.ofList text))).moveTo after)

def plainScalar? (s : Scanner) : Option Scanner := do
  let s ← s.noteKey?
  let p ← plain? s.inFlow (s.indent + 1).toNat s.cursor
  some (((s.allowKey p.gap.hasBreak).push (.scalar .plain (String.ofList p.text))).moveTo p.cursor)

/-- The characters that no plain scalar begins with, unless what follows says so. -/
def indicators : List Char := "-?:,[]\x7b\x7d#&*!|>'\"%@\x60".toList

/-- Whether a plain scalar begins here. -/
def beginsPlain (s : Scanner) : Bool :=
  match s.cursor.head? with
  | none => false
  | some c =>
    let next := s.cursor.peek? 1
    !(isEnd (some c) || indicators.contains c) || (c == '-' && !next.any isBlank) ||
      (!s.inFlow && (c == '?' || c == ':') && !isEnd next)

/-- The scanner after a token of the content, at which it stands. -/
def contentToken? (s : Scanner) (x : Char) : Option Scanner :=
  let ends := isEnd (s.cursor.peek? 1)
  if x = '[' then s.openBracket? .flowSequenceStart
  else if x = '\x7b' then s.openBracket? .flowMappingStart
  else if x = ']' then s.closeBracket? .flowSequenceEnd
  else if x = '\x7d' then s.closeBracket? .flowMappingEnd
  else if x = ',' then s.comma?
  else if x = '-' ∧ ends then s.dash?
  else if x = '?' ∧ (s.inFlow ∨ ends) then s.question?
  else if x = ':' ∧ (s.inFlow ∨ ends) then s.colon?
  else if x = '*' then s.keyPart? anchor? .reference
  else if x = '&' then s.keyPart? anchor? .anchor
  else if x = '!' then s.keyPart? tag? .tag
  else if x = '|' ∧ !s.inFlow then s.blockScalar? true
  else if x = '>' ∧ !s.inFlow then s.blockScalar? false
  else if x = '\'' then s.quotedScalar? true
  else if x = '"' then s.quotedScalar? false
  else if s.beginsPlain then s.plainScalar?
  else none

/-- The scanner after the comment on the line of the last token. A dash has none of its own. -/
def afterComment (s : Scanner) : Scanner :=
  if s.queue.getLast? = some .blockEntry then s else s.moveTo s.cursor.skipLineComment

/-- The scanner after the next token, at which it stands. -/
def token? (s : Scanner) : Option Scanner :=
  let s := s.closeBlocks s.cursor.column
  let c := s.cursor.need 4
  let s := s.moveTo c
  match c.head? with
  | none => s.endOfStream?
  | some x =>
    if c.column = 0 ∧ x = '%' then s.directiveLine?
    else if c.atMarker "---" then s.documentMarker? .documentStart
    else if c.atMarker "..." then s.documentMarker? .documentEnd
    else (s.contentToken? x).map afterComment

/-- Scans one more token. -/
def fetch? (s : Scanner) : Option Scanner := do
  let s ← (toToken (s.size + 1) s).token?
  if s.cursor.window.failed then none else some s

/-! ## Giving out -/

/-- Whether the first token of the queue can be given out. -/
inductive Readiness where
  | ready
  | unready
  /-- A key that has to be there cannot be any more. -/
  | missingKey
deriving DecidableEq, Repr

/-- A token is given out when two others are behind it and it does not wait for a key. -/
def readiness (s : Scanner) : Readiness :=
  if s.queue.length < 3 then .unready
  else match s.waiting.lookup s.count with
    | none => .ready
    | some depth => match s.keys[depth]? with
      | none => .ready
      | some k =>
        if !k.possible then .ready
        else if k.reaches s.cursor then .unready
        else if k.required then .missingKey
        else .ready

/-- Marks the key that the first token of the queue waits for as impossible. -/
def expire (s : Scanner) : Scanner :=
  match s.waiting.lookup s.count with
  | none => s
  | some depth =>
    { s with keys := s.keys.modify depth fun k => { k with possible := false } }

/-- Gives out the first token of the queue, which then waits no longer. -/
def give (s : Scanner) : Scanner :=
  let s := s.expire
  let s := s.release s.count
  { s with
    given := s.queue.take 1 ++ s.given, count := s.count + 1, queue := s.queue.drop 1 }

/-- Scans and gives out tokens to the end of the text, or as far as it is well formed, in at most
`fuel` steps. -/
def run : Nat → Scanner → Scanner
  | 0, s => s
  | fuel + 1, s =>
    if s.given.head? = some .streamEnd then s
    else match s.readiness with
      | .ready => run fuel s.give
      | .missingKey => s
      | .unready => match s.fetch? with
        | some s => run fuel s
        | none => s

end Scanner

/-- The tokens of a text as far as it can be scanned. -/
def tokens (text : String) : List Token :=
  let c := Cursor.ofText text.toList
  let size := c.rest.length
  (Scanner.run (8 * (size + 4)) { size, cursor := c }).given.reverse

end ModelCompiler.Yaml
