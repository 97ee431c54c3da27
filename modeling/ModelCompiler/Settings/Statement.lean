import ModelCompiler.Settings.Environment
import ModelCompiler.Text.Blank
import ModelCompiler.Text.Letter
import ModelCompiler.Text.Quoted

/-! # Texts that describe an environment

A text is a row of statements, each of which binds a name to a value. The name ends at `=` or `:`.
The value goes to the end of the line unless it is quoted. -/

namespace ModelCompiler

/-- Why a text describes no environment. -/
inductive EnvironmentError where
  /-- The byte cannot be part of the name that the text begins with. -/
  | badName (byte : Char) (text : String)
  | noName
  | openQuote (line : String)
deriving DecidableEq, Repr

def EnvironmentError.message : EnvironmentError → String
  | .badName byte text =>
    "unexpected character " ++ Text.quote (String.singleton byte) ++ " in variable name near " ++
      Text.quote text
  | .noName => "zero length string"
  | .openQuote line => "unterminated quoted value " ++ line

namespace Environment

/-! ## Names -/

/-- Blanks inside a line. -/
def isGap (c : Char) : Bool :=
  c == '\t' || c == '\x0b' || c == '\x0c' || c == '\r' || c == ' ' || c == '\x85' || c == '\xa0'

/-- The numerals below U+0100. -/
def numerals : Text.CharClass := ⟨[(0x30, 0x39), (0xB2, 0xB3), (0xB9, 0xB9), (0xBC, 0xBE)]⟩

/-- Whether a byte, taken for a character, may stand in a name. -/
def isNameByte (c : Char) : Bool :=
  isGap c || c == '_' || c == '.' || Text.isLetter c || numerals.contains c

/-- The first byte of a character, taken for a character itself, that may not stand in a name. -/
def badByte? (c : Char) : Option Char :=
  ((Text.utf8Bytes c).map fun b => Char.ofNat b.toNat).find? fun b => !isNameByte b

/-- The text before the first `=` or `:` and the text after it. Without such a mark there is no
name, and all of the text is left. -/
def readName : List Char → Except Char (Option (List Char × List Char))
  | [] => .ok none
  | c :: cs =>
    if c = '=' ∨ c = ':' then .ok (some ([], cs))
    else match badByte? c with
      | some b => .error b
      | none => do
        let rest ← readName cs
        return rest.map fun (name, left) => (c :: name, left)

/-- The statement without the word `export` before it. -/
def dropExport (cs : List Char) : List Char :=
  let word := "export".toList
  let rest := cs.drop word.length
  if word.isPrefixOf cs && rest.head?.any isGap then rest.dropWhile isGap else cs

/-- The name that a statement binds, and the text from its value on. -/
def nameOf (statement : List Char) : Except EnvironmentError (List Char × List Char) :=
  match dropExport (statement.dropWhile isGap) with
  | [] => .error .noName
  | cs =>
    match readName cs with
    | .error b => .error (.badName b (String.ofList cs))
    | .ok none => .ok ([], cs)
    | .ok (some (name, left)) => .ok (Text.trimEnd name, left.dropWhile isGap)

/-! ## Values -/

/-- The text before the last `#` that follows a blank, if there is one. -/
def beforeRemark? : List Char → Option (List Char)
  | a :: b :: cs =>
    match beforeRemark? (b :: cs) with
    | some t => some (a :: t)
    | none => if isGap a && b == '#' then some [a] else none
  | _ => none

/-- The text without the characters at its two ends that `p` picks out. -/
def strip (p : Char → Bool) (cs : List Char) : List Char :=
  ((cs.dropWhile p).reverse.dropWhile p).reverse

/-- Backslashes before the letters for line ends are taken away with the letters. -/
def unescapeLineEnds : List Char → List Char
  | '\\' :: c :: cs =>
    if c = 'n' then '\n' :: unescapeLineEnds cs
    else if c = 'r' then '\r' :: unescapeLineEnds cs
    else '\\' :: c :: unescapeLineEnds cs
  | c :: cs => c :: unescapeLineEnds cs
  | [] => []

/-- Backslashes are taken away, but not before a dollar sign. -/
def dropBackslashes : List Char → List Char
  | '\\' :: c :: cs =>
    if c = '$' then '\\' :: '$' :: dropBackslashes cs else c :: dropBackslashes cs
  | c :: cs => c :: dropBackslashes cs
  | [] => []

/-- The text up to the next quote that no backslash precedes, and what follows that quote. -/
def untilQuote? (quote : Char) (before : Char) : List Char → Option (List Char × List Char)
  | [] => none
  | c :: cs =>
    if c = quote ∧ before ≠ '\\' then some ([], cs)
    else (untilQuote? quote c cs).map fun (inside, rest) => (c :: inside, rest)

/-- The value that begins with a quote, and what follows it. -/
def quotedValue (e : Environment) (quote : Char) (cs : List Char) :
    Except EnvironmentError (List Char × List Char) :=
  match untilQuote? quote quote cs with
  | none => .error (.openQuote (String.ofList (quote :: cs.takeWhile (· ≠ '\n'))))
  | some (inside, rest) =>
    let text := strip (· == quote) inside
    if quote = '"' then .ok (e.expand (dropBackslashes (unescapeLineEnds text)), rest)
    else .ok (text, rest)

/-- The value on the rest of a line, without a remark after it. -/
def plainValue (e : Environment) (line : List Char) : List Char :=
  e.expand (strip isGap ((beforeRemark? line).getD line))

/-- The value at the beginning of a text, and what follows it. -/
def valueOf (e : Environment) (cs : List Char) : Except EnvironmentError (List Char × List Char) :=
  let isInLine (c : Char) : Bool := c ≠ '\n' && c ≠ '\r'
  match cs with
  | '"' :: rest => e.quotedValue '"' rest
  | '\x27' :: rest => e.quotedValue '\x27' rest
  | _ => .ok (e.plainValue (cs.takeWhile isInLine), cs.dropWhile isInLine)

/-! ## Files -/

/-- The text from the first statement on; `remark` says whether it begins inside a remark. -/
def statementStart (remark : Bool) : List Char → List Char
  | [] => []
  | c :: cs =>
    if remark then statementStart (c ≠ '\n') cs
    else if Text.isBlank c then statementStart false cs
    else if c = '#' then statementStart true cs
    else c :: cs

/-- Adds what the statements of a text bind, at most `fuel` of them. -/
def readStatements : (fuel : Nat) → List Char → Environment → Except EnvironmentError Environment
  | 0, _, e => .ok e
  | fuel + 1, text, e =>
    match statementStart false text with
    | [] => .ok e
    | statement => do
      let (name, left) ← nameOf statement
      let (value, rest) ← e.valueOf left
      readStatements fuel rest (e.bind (String.ofList name) (String.ofList value))

/-- The text with every line end written as one character. -/
def joinLineEnds : List Char → List Char
  | '\r' :: '\n' :: cs => '\n' :: joinLineEnds cs
  | c :: cs => c :: joinLineEnds cs
  | [] => []

/-- The environment that a text describes. A value may refer to names that are bound before it. -/
def parse (text : String) : Except EnvironmentError Environment :=
  let cs := joinLineEnds text.toList
  readStatements cs.length cs {}

/-- The environment that some texts describe, each by itself. A later one shadows earlier ones. -/
def parseAll (texts : List String) : Except EnvironmentError Environment :=
  texts.foldlM (fun e text => do return (← parse text).shadowing e) {}

end Environment

end ModelCompiler
