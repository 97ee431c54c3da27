import ModelCompiler.Text.Printable
import ModelCompiler.Text.Utf8

/-! # Double-quoted literals -/

namespace ModelCompiler.Text

/-- The last `width` hexadecimal digits of a number, the most significant first. -/
def hexDigits : Nat → Nat → List Char
  | 0, _ => []
  | width + 1, n => hexDigits width (n / 16) ++ [Nat.digitChar (n % 16)]

def hexDigit? (c : Char) : Option Nat :=
  if '0' ≤ c ∧ c ≤ '9' then some (c.toNat - '0'.toNat)
  else if 'a' ≤ c ∧ c ≤ 'f' then some (c.toNat - 'a'.toNat + 10)
  else if 'A' ≤ c ∧ c ≤ 'F' then some (c.toNat - 'A'.toNat + 10)
  else none

/-- The letters that stand for control characters after a backslash. -/
def controlLetters : List (Char × Char) :=
  [('\x07', 'a'), ('\x08', 'b'), ('\x0c', 'f'), ('\n', 'n'), ('\r', 'r'), ('\t', 't'),
   ('\x0b', 'v')]

/-- A character as it stands between double quotes. -/
def escape (c : Char) : List Char :=
  if c = '"' ∨ c = '\\' then ['\\', c]
  else if isPrintable c then [c]
  else match controlLetters.lookup c with
    | some l => ['\\', l]
    | none =>
      if c.toNat < 0x20 ∨ c.toNat = 0x7f then '\\' :: 'x' :: hexDigits 2 c.toNat
      else if c.toNat < 0x10000 then '\\' :: 'u' :: hexDigits 4 c.toNat
      else '\\' :: 'U' :: hexDigits 8 c.toNat

/-- The text between double quotes. -/
def quote (s : String) : String :=
  String.ofList ('"' :: s.toList.flatMap escape ++ ['"'])

/-- The value of a run of digits in the given base, if all of them are digits of that base. -/
def digitsValue? (base : Nat) (cs : List Char) : Option Nat :=
  cs.foldlM (fun acc c => do
    let d ← hexDigit? c
    if d < base then some (acc * base + d) else none) 0

/-- A numeric escape: `count` digits in `base` that give a byte or a character. -/
def numericEscape? (base count : Nat) (isByte : Bool) (cs : List Char) :
    Option (List UInt8 × List Char) := do
  let ds := cs.take count
  if ds.length < count then none
  let n ← digitsValue? base ds
  if isByte then
    if n < 256 then some ([n.toUInt8], cs.drop count) else none
  else if n.isValidChar then some (utf8Bytes (Char.ofNat n), cs.drop count)
  else none

/-- The bytes that the escape after a backslash stands for, and what follows it. -/
def unescape? : List Char → Option (List UInt8 × List Char)
  | [] => none
  | c :: cs =>
    if c = '\\' ∨ c = '"' then some (utf8Bytes c, cs)
    else match controlLetters.find? (·.2 = c) with
      | some p => some (utf8Bytes p.1, cs)
      | none =>
        if c = 'x' then numericEscape? 16 2 true cs
        else if c = 'u' then numericEscape? 16 4 false cs
        else if c = 'U' then numericEscape? 16 8 false cs
        else if '0' ≤ c ∧ c ≤ '7' then numericEscape? 8 3 true (c :: cs)
        else none

/-- Reads what stands between two double quotes, at most `fuel` characters of it. -/
def literalBytes? : Nat → List Char → Option (List UInt8)
  | _, [] => some []
  | 0, _ => none
  | fuel + 1, c :: cs =>
    if c = '"' ∨ c = '\n' then none
    else if c = '\\' then do
      let (bytes, rest) ← unescape? cs
      let more ← literalBytes? fuel rest
      some (bytes ++ more)
    else do
      let more ← literalBytes? fuel cs
      some (utf8Bytes c ++ more)

/-- The bytes of a double-quoted literal with this text between its quotes, if it is one. -/
def readLiteral? (s : String) : Option (List UInt8) :=
  literalBytes? s.toList.length s.toList

end ModelCompiler.Text
