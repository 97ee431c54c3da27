import ModelCompiler.Code.Token
import ModelCompiler.Text.Pieces
import ModelCompiler.Text.Quoted

/-! # Literals -/

namespace ModelCompiler.Code

def isDecimal (c : Char) : Bool := '0' ≤ c && c ≤ '9'

/-! ## Numbers -/

/-- The way in which the digits of a number are marked. -/
inductive Radix where
  | plain
  /-- Octal, by a zero in front. -/
  | zero
  | hexadecimal
  | octal
  | binary
deriving DecidableEq, Repr

namespace Radix

def base : Radix → Nat
  | .plain => 10
  | .zero | .octal => 8
  | .hexadecimal => 16
  | .binary => 2

/-- Whether a character counts as a digit or separates two digits. A digit that is too large for its
base counts, and is judged later. -/
def accepts (r : Radix) (c : Char) : Bool :=
  c == '_' || isDecimal c || (r == .hexadecimal && (Text.hexDigit? c).isSome)

/-- Whether all digits are small enough. -/
def fits (r : Radix) (digits : List Char) : Bool :=
  digits.all fun c => c == '_' || (Text.hexDigit? c).any (· < r.base)

end Radix

/-- How a number begins: its radix, what marks it, and the rest. -/
def radixOf : List Char → Radix × List Char × List Char
  | '0' :: c :: rest =>
    if c = 'x' ∨ c = 'X' then (.hexadecimal, ['0', c], rest)
    else if c = 'o' ∨ c = 'O' then (.octal, ['0', c], rest)
    else if c = 'b' ∨ c = 'B' then (.binary, ['0', c], rest)
    else (.zero, ['0'], c :: rest)
  | '0' :: [] => (.zero, ['0'], [])
  | cs => (.plain, [], cs)

/-- Whether every underscore stands between two digits; `digit` says whether what comes before is a
digit, and `separator` whether it is an underscore. -/
def separatesDigits (isDigit : Char → Bool) : Bool → Bool → List Char → Bool
  | _, separator, [] => !separator
  | digit, separator, c :: cs =>
    if c = '_' then digit && separatesDigits isDigit false true cs
    else if isDigit c then separatesDigits isDigit true false cs
    else !separator && separatesDigits isDigit false false cs

/-- The exponent of a number: its letter, its sign and its digits. -/
def exponent (cs : List Char) : Option (Char × List Char × List Char × List Char) :=
  match cs with
  | c :: rest =>
    if ['e', 'E', 'p', 'P'].contains c then
      let (plus, rest) := match rest with
        | d :: more => if d = '+' ∨ d = '-' then ([d], more) else ([], d :: more)
        | [] => ([], [])
      some (c, plus, rest.takeWhile Radix.plain.accepts, rest.dropWhile Radix.plain.accepts)
    else none
  | [] => none

/-- A number at the beginning of a text, and the rest. -/
def number? (cs : List Char) : Option (Kind × List Char × List Char) := do
  let (radix, lead, rest) := radixOf cs
  let whole := rest.takeWhile radix.accepts
  let rest := rest.dropWhile radix.accepts
  let (point, fraction, rest) := match rest with
    | '.' :: more => (['.'], more.takeWhile radix.accepts, more.dropWhile radix.accepts)
    | rest => ([], [], rest)
  if point ≠ [] ∧ (radix = .octal ∨ radix = .binary) then none
  if radix ≠ .zero ∧ (whole ++ fraction).all (· == '_') then none
  let kind := if point = [] then Kind.integer else .decimal
  let (kind, power, rest) ← match exponent rest with
    | some (letter, plus, digits, rest) =>
      if digits.all (· == '_') then none
      else if letter = 'e' ∨ letter = 'E' then
        if radix = .plain ∨ radix = .zero then
          some (Kind.decimal, letter :: plus ++ digits, rest)
        else none
      else if radix = .hexadecimal then some (Kind.decimal, letter :: plus ++ digits, rest)
      else none
    | none => if radix = .hexadecimal ∧ kind = .decimal then none else some (kind, [], rest)
  let (kind, unit, rest) := match rest with
    | 'i' :: more => (Kind.imaginary, ['i'], more)
    | rest => (kind, [], rest)
  if kind = .integer ∧ !radix.fits whole then none
  let marked := radix != .plain && radix != .zero
  let body := (if marked then [] else lead) ++ whole ++ point ++ fraction ++ power ++ unit
  let isDigit := fun c =>
    isDecimal c || (radix == .hexadecimal && (Text.hexDigit? c).isSome)
  if body.contains '_' ∧ !separatesDigits isDigit marked false body then none
  some (kind, (if marked then lead else []) ++ body, rest)

/-! ## Characters and texts -/

/-- The length of an escape by digits that stand for a character or a byte. -/
def digitsLength? (base count limit : Nat) (cs : List Char) : Option Nat := do
  let ds := cs.take count
  if ds.length < count then none
  let n ← Text.digitsValue? base ds
  if limit < n ∨ (0xD800 ≤ n ∧ n < 0xE000) then none
  some count

/-- The length of an escape without its backslash. -/
def escapeLength? (quote : Char) : List Char → Option Nat
  | [] => none
  | c :: cs =>
    if c = quote ∨ "abfnrtv\\".toList.contains c then some 1
    else if '0' ≤ c ∧ c ≤ '7' then digitsLength? 8 3 255 (c :: cs)
    else if c = 'x' then (digitsLength? 16 2 255 cs).map (· + 1)
    else if c = 'u' then (digitsLength? 16 4 0x10FFFF cs).map (· + 1)
    else if c = 'U' then (digitsLength? 16 8 0x10FFFF cs).map (· + 1)
    else none

/-- The text up to and with the closing quote, the number of characters that it stands for, and what
follows it. `skipped` characters belong to an escape that has been read, and `seen` is the text
before, the last character first. -/
def quotedBody? (quote : Char) : Nat → Nat → List Char → List Char →
    Option (List Char × Nat × List Char)
  | _, _, _, [] => none
  | skipped + 1, count, seen, c :: cs => quotedBody? quote skipped count (c :: seen) cs
  | 0, count, seen, c :: cs =>
    if c = '\n' then none
    else if c = quote then some ((c :: seen).reverse, count, cs)
    else if c = '\\' then do
      let length ← escapeLength? quote cs
      quotedBody? quote length (count + 1) (c :: seen) cs
    else quotedBody? quote 0 (count + 1) (c :: seen) cs

/-- A literal between quotes, the first of which has been read. -/
def quoted? (quote : Char) (cs : List Char) : Option (Kind × List Char × List Char) := do
  let (text, count, rest) ← quotedBody? quote 0 0 [quote] cs
  if quote = '"' then some (.text, text, rest)
  else if count = 1 then some (.character, text, rest)
  else none

/-- The mark around a text without escapes. -/
def rawQuote : Char := '\x60'

/-- A text without escapes, the first mark of which has been read. -/
def raw? (cs : List Char) : Option (Kind × List Char × List Char) := do
  let (text, rest) ← Text.cut? rawQuote cs
  some (.text, rawQuote :: text ++ [rawQuote], rest)

/-- A literal as it is kept: carriage returns are no part of a text without escapes. -/
def keptLiteral (text : List Char) : List Char :=
  if text.head? = some rawQuote then text.filter (· != '\r') else text

/-- A literal at the beginning of a text, and the rest; `some none` if it is malformed. -/
def literal? (cs : List Char) : Option (Option (Kind × List Char × List Char)) :=
  match cs with
  | [] => none
  | c :: rest =>
    if isDecimal c ∨ (c = '.' ∧ rest.head?.any isDecimal) then some (number? cs)
    else if c = '"' ∨ c = '\x27' then some (quoted? c rest)
    else if c = rawQuote then some (raw? rest)
    else none

/-- A number in its common spelling. -/
def normalNumber (text : List Char) : List Char :=
  let lowerLast (upper lower : Char) (cs : List Char) : List Char :=
    match Text.cut? upper cs.reverse with
    | some (after, before) => before.reverse ++ lower :: after.reverse
    | none => cs
  match text with
  | '0' :: 'X' :: rest => lowerLast 'P' 'p' ('0' :: 'x' :: rest)
  | '0' :: 'x' :: _ => lowerLast 'P' 'p' text
  | '0' :: 'O' :: rest => '0' :: 'o' :: rest
  | '0' :: 'o' :: _ => text
  | '0' :: 'B' :: rest => '0' :: 'b' :: rest
  | '0' :: 'b' :: _ => text
  | _ :: _ :: _ =>
    if text.contains 'E' then lowerLast 'E' 'e' text
    else if text.getLast? = some 'i' ∧ !text.contains '.' ∧ !text.contains 'e' then
      let short := text.dropWhile fun c => c == '0' || c == '_'
      if short = ['i'] then ['0', 'i'] else short
    else text
  | _ => text

end ModelCompiler.Code
