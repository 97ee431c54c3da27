import ModelCompiler.Text.Decimal
import ModelCompiler.Text.Quoted
import ModelCompiler.Text.Utf8
import ModelCompiler.Yaml.Cursor

/-! # Anchors, tags and directives -/

namespace ModelCompiler.Yaml

/-- What may stand right after an anchor. -/
def endsAnchor : Option Char → Bool
  | none => true
  | some c => isEnd (some c) || ['?', ':', ',', ']', '\x7d', '%', '@', '\x60'].contains c

/-- The name of the anchor or alias whose indicator stands here. -/
def anchor? (c : Cursor) : Option (String × Cursor) :=
  let (name, after) := (c.skip.need 1).span isWordChar
  if name.isEmpty ∨ !endsAnchor after.head? then none else some (String.ofList name, after)

/-- A tag as it is written: a handle, which a directive gives a meaning, and a suffix. -/
structure WrittenTag where
  handle : String
  suffix : String
deriving DecidableEq, Repr

def isUriChar (c : Char) : Bool :=
  isWordChar c || ";/?:@&=+$.,!~*'()[]%".toList.contains c

/-! ## Escapes -/

/-- The bytes that follow one another as `%hh`. -/
def percentBytes : List Char → List UInt8
  | '%' :: a :: b :: rest =>
    match Text.digitsValue? 16 [a, b] with
    | some n => n.toUInt8 :: percentBytes rest
    | none => []
  | _ => []

/-- Whether a byte may stand in a character of UTF-8 after the first. -/
def isTrailingByte (b : UInt8) : Bool := b &&& 0xC0 == 0x80

/-- The text that escapes in the text of a tag stand for, if each of them has the form of a
character. -/
def unescapeUri? : Nat → List Char → Option (List Char)
  | _, [] => some []
  | 0, _ => none
  | fuel + 1, c :: cs =>
    if c ≠ '%' then (unescapeUri? fuel cs).map (c :: ·)
    else do
      let bytes := percentBytes (c :: cs)
      let first ← bytes.head?
      let width := Text.utf8Width first
      if width = 0 ∨ bytes.length < width then none
      if !((bytes.take width).drop 1).all isTrailingByte then none
      let rest ← unescapeUri? fuel ((c :: cs).drop (3 * width))
      some ((Text.textOfBytes (bytes.take width)).toList ++ rest)

/-! ## Tags -/

/-- The text of a tag that stands here. -/
def uri? (c : Cursor) : Option (List Char × Cursor) := do
  let (raw, after) := (c.need 1).span isUriChar
  let text ← unescapeUri? (raw.length + 1) raw
  some (text, after)

/-- The handle here: exclamation marks around a word, or something that only begins like one. -/
def handle (c : Cursor) : List Char × Cursor :=
  let (word, after) := ((c.need 1).skip.need 1).span isWordChar
  if after.sees '!' then ('!' :: word ++ ['!'], after.skip) else ('!' :: word, after)

/-- Whether what was read as a handle is one that has a name or is the short one of the format. -/
def isHandle (h : List Char) : Bool := 1 < h.length && h.getLast? == some '!'

/-- The tag that stands here. -/
def tagBody? (c : Cursor) : Option (WrittenTag × Cursor) :=
  let c := c.need 2
  if c.peek? 1 = some '<' then do
    let (text, after) ← uri? (c.skipMany 2)
    if text.isEmpty ∨ !after.sees '>' then none
    else some ({ handle := "", suffix := String.ofList text }, after.skip)
  else do
    let (h, after) := handle c
    let (text, last) ← uri? after
    if isHandle h then
      if text.isEmpty then none
      else some ({ handle := String.ofList h, suffix := String.ofList text }, last)
    else
      let suffix := h.drop 1 ++ text
      if suffix.isEmpty then some ({ handle := "", suffix := "!" }, last)
      else some ({ handle := "!", suffix := String.ofList suffix }, last)

/-- The tag that stands here, with an end after it. -/
def tag? (c : Cursor) : Option (WrittenTag × Cursor) := do
  let (t, after) ← tagBody? c
  let after := after.need 1
  if isEnd after.head? then some (t, after) else none

/-! ## Directives -/

/-- What a line at the beginning of a document says about it. -/
inductive Directive where
  | version (major minor : Nat)
  | tag (handle text : String)
deriving DecidableEq, Repr

/-- A number of at most two digits. -/
def versionNumber? (c : Cursor) : Option (Nat × Cursor) := do
  let (digits, after) := (c.need 1).span Char.isDigit
  if 2 < digits.length then none
  let n ← Text.natOfDigits? digits
  some (n, after)

def versionDirective? (c : Cursor) : Option (Directive × Cursor) := do
  let (major, c) ← versionNumber? ((c.need 1).skipWhile isBlank)
  if !c.sees '.' then none
  let (minor, c) ← versionNumber? c.skip
  some (.version major minor, c)

def tagDirective? (c : Cursor) : Option (Directive × Cursor) := do
  let c := (c.need 1).skipWhile isBlank
  if !c.sees '!' then none
  let (h, c) := handle c
  if !isHandle h ∧ h ≠ ['!'] then none
  let c := c.need 1
  if !c.seesAny isBlank then none
  let (text, c) ← uri? (c.skipWhile isBlank)
  let c := c.need 1
  if text.isEmpty ∨ !isEnd c.head? then none
  some (.tag (String.ofList h) (String.ofList text), c)

/-- The directive whose indicator stands here, and the position after its line. -/
def directive? (c : Cursor) : Option (Directive × Cursor) := do
  let (name, c) := (c.skip.need 1).span isWordChar
  if !isEnd c.head? then none
  let (d, c) ←
    if name = "YAML".toList then versionDirective? c
    else if name = "TAG".toList then tagDirective? c
    else none
  let c := (c.need 1).skipWhile isBlank
  let c := if c.sees '#' then c.toLineEnd else c
  if isLineEnd c.head? then some (d, c.skipBreak) else none

end ModelCompiler.Yaml
