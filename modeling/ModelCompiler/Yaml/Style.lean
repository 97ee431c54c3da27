import ModelCompiler.Text.Quoted
import ModelCompiler.Yaml.Cursor
import ModelCompiler.Yaml.Meaning

/-! # The written form of a scalar -/

namespace ModelCompiler.Yaml

/-! ## Characters -/

/-- The characters that are written as they are, other than tabs. -/
def isWritable (c : Char) : Bool :=
  c == '\n' || (0x20 ≤ c.toNat && c.toNat ≤ 0x7E) || (0xA0 ≤ c.toNat && c.toNat ≤ 0xD7FF) ||
    (0xE000 ≤ c.toNat && c.toNat ≤ 0xFFFD && c != byteOrderMark)

/-- Whether somewhere in a text a character of one class is followed by one of another. -/
def hasAdjacent (p q : Char → Bool) : List Char → Bool
  | a :: b :: rest => (p a && q b) || hasAdjacent p q (b :: rest)
  | _ => false

def isSpace (c : Char) : Bool := c == ' '

/-- Whether a blank or nothing comes next. -/
def endsWord : List Char → Bool
  | [] => true
  | c :: _ => isBlank c

/-! ## What a text allows -/

/-- Whether the beginning of a text would be taken for something other than a plain scalar. -/
def hasLeadingIndicator : List Char → Bool
  | [] => false
  | c :: cs =>
    "---".toList.isPrefixOf (c :: cs) || "...".toList.isPrefixOf (c :: cs) ||
      "#,[]\x7b\x7d&*!|>'\"%@\x60".toList.contains c ||
      ((c == '?' || c == ':' || c == '-') && endsWord cs)

/-- Whether a colon would end a plain scalar, or a comment would. -/
def hasInnerIndicator : List Char → Bool
  | a :: b :: rest =>
    (b == ':' && endsWord rest) || (b == '#' && isEnd (some a)) || hasInnerIndicator (b :: rest)
  | _ => false

/-- Whether a character of a text cannot be written as it is. -/
def hasSpecial (cs : List Char) : Bool := cs.any fun c => c != '\t' && !isWritable c

def isMultiline (cs : List Char) : Bool := cs.any isBreak

/-- Whether the end of a text, or its beginning, is a space or a line break. -/
def hasLooseEnds (cs : List Char) : Bool :=
  let loose (c : Char) : Bool := isSpace c || isBreak c
  cs.head?.any loose || cs.getLast?.any loose

def allowsSingleQuotes (cs : List Char) : Bool :=
  !hasAdjacent isBreak isSpace cs && !hasAdjacent isSpace isBreak cs && !cs.contains '\t' &&
    !hasSpecial cs

def allowsPlain (cs : List Char) : Bool :=
  allowsSingleQuotes cs && !hasLooseEnds cs && !isMultiline cs && !hasLeadingIndicator cs &&
    !hasInnerIndicator cs

def allowsBlock (cs : List Char) : Bool :=
  !cs.isEmpty && !cs.getLast?.any isSpace && !hasAdjacent isSpace isBreak cs && !hasSpecial cs

/-! ## Styles -/

inductive Style where
  | plain
  | singleQuoted
  | doubleQuoted
  | literal
deriving DecidableEq, Repr

/-- Whether a text can be a key without being marked as one. -/
def isSimpleKey (text : String) : Bool := !isMultiline text.toList && text.utf8ByteSize ≤ 128

/-- The style of a text: a block if it has several lines and a block can hold them, else plain if
it is then read as the same text. -/
def styleOf (key : Bool) (text : String) : Style :=
  let cs := text.toList
  if cs.contains '\n' then if key ∨ !allowsBlock cs then .doubleQuoted else .literal
  else if meaningOf true text ≠ .text ∨ (key ∧ isMultiline cs) then .doubleQuoted
  else if allowsPlain cs then .plain
  else if allowsSingleQuotes cs then .singleQuoted
  else .doubleQuoted

/-! ## Texts -/

def spaces (n : Nat) : List Char := List.replicate n ' '

/-- The letters after a backslash that stand for characters that cannot be written as they are. -/
def escapeLetters : List (Char × Char) :=
  [('\x00', '0'), ('\x07', 'a'), ('\x08', 'b'), ('\t', 't'), ('\n', 'n'), ('\x0b', 'v'),
   ('\x0c', 'f'), ('\r', 'r'), ('\x1b', 'e'), ('"', '"'), ('\\', '\\'), ('\x85', 'N'),
   ('\u2028', 'L'), ('\u2029', 'P')]

/-- A character between double quotes. -/
def escaped (c : Char) : List Char :=
  if isWritable c ∧ !isBreak c ∧ c ≠ '"' ∧ c ≠ '\\' then [c]
  else match escapeLetters.lookup c with
    | some letter => ['\\', letter]
    | none =>
      if c.toNat ≤ 0xFF then '\\' :: 'x' :: Text.hexDigits 2 c.toNat
      else if c.toNat ≤ 0xFFFF then '\\' :: 'u' :: Text.hexDigits 4 c.toNat
      else '\\' :: 'U' :: Text.hexDigits 8 c.toNat

/-- The inside of single quotes. What follows a line break is indented. -/
def singleQuoted (indent : Nat) (afterBreak : Bool) : List Char → List Char
  | [] => []
  | c :: cs =>
    if isBreak c then c :: singleQuoted indent true cs
    else if isSpace c then c :: singleQuoted indent afterBreak cs
    else (if afterBreak then spaces indent else []) ++
      (if c = '\'' then ['\'', '\''] else [c]) ++ singleQuoted indent false cs

/-- How many spaces a block is indented by, which is said where the text does not show it. -/
def indentStep : Nat := 4

/-- The indicators of a block: for its indentation if the text begins with a space or a line break,
and for the line breaks at its end unless there is one. -/
def blockHints (cs : List Char) : List Char :=
  (if cs.head?.any fun c => isSpace c || isBreak c then Nat.toDigits 10 indentStep else []) ++
  match cs.reverse with
  | [] => ['-']
  | [c] => if isBreak c then ['+'] else ['-']
  | c :: d :: _ => if !isBreak c then ['-'] else if isBreak d then ['+'] else []

/-- The lines of a block. The first one begins on a new line; a line break that the text begins with
counts as the beginning of that line. -/
def literalLines (indent : Nat) (first afterBreak : Bool) : List Char → List Char
  | [] => []
  | c :: cs =>
    if isBreak c then c :: literalLines indent false true cs
    else (if first then '\n' :: spaces indent else if afterBreak then spaces indent else []) ++
      c :: literalLines indent false false cs

/-- The written form of a text, whose lines after the first are indented. -/
def writeScalar (indent : Nat) (key : Bool) (text : String) : List Char :=
  let cs := text.toList
  match styleOf key text with
  | .plain => cs
  | .singleQuoted => '\'' :: singleQuoted indent false cs ++ ['\'']
  | .doubleQuoted => '"' :: cs.flatMap escaped ++ ['"']
  | .literal => '|' :: blockHints cs ++ literalLines indent true true cs

end ModelCompiler.Yaml
