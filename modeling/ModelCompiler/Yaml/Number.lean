import ModelCompiler.Text.Decimal
import ModelCompiler.Text.Quoted

/-! # Numbers: whole ones of 64 bits, and decimal fractions -/

namespace ModelCompiler.Yaml

/-- The text without one sign before it. -/
def unsigned : List Char → List Char
  | '+' :: cs => cs
  | '-' :: cs => cs
  | cs => cs

/-! ## Whole numbers -/

/-- The value of digits of a base, of which there is at least one. -/
def number? (base : Nat) (cs : List Char) : Option Nat :=
  if cs.isEmpty then none else Text.digitsValue? base cs

/-- The value of a number that a letter after its first zero gives the base of; without a letter
the zero stands for the base 8. -/
def basedNumber? : List Char → Option Nat
  | '0' :: c :: cs =>
    if c = 'x' ∨ c = 'X' then number? 16 cs
    else if c = 'o' ∨ c = 'O' then number? 8 cs
    else if c = 'b' ∨ c = 'B' then number? 2 cs
    else number? 8 (c :: cs)
  | cs => number? 10 cs

/-- Whether a text, after its sign, is a number as `read?` reads it that fits a signed word of 64
bits. -/
def isSignedWord (read? : List Char → Option Nat) (cs : List Char) : Bool :=
  match read? (unsigned cs) with
  | some n => if cs.head? = some '-' then n ≤ 0x8000000000000000 else n < 0x8000000000000000
  | none => false

/-- Whether a text is a number as `read?` reads it that fits an unsigned word of 64 bits. -/
def isUnsignedWord (read? : List Char → Option Nat) (cs : List Char) : Bool :=
  match read? cs with
  | some n => n < 0x10000000000000000
  | none => false

/-! ## Fractions -/

/-- A decimal fraction: the digits before and after the point, and the exponent. -/
structure Fraction where
  whole : List Char
  part : List Char
  exponent : Int
deriving DecidableEq, Repr

/-- The value of the digits of an exponent, which beyond a bound count no more. -/
def exponentValue (cs : List Char) : Nat :=
  cs.foldl (fun e c => if e < 10000 then e * 10 + (c.toNat - 48) else e) 0

/-- The exponent that a text is, or zero if there is none. -/
def exponent? : List Char → Option Int
  | [] => some 0
  | c :: cs =>
    let digits := unsigned cs
    if (c = 'e' ∨ c = 'E') ∧ !digits.isEmpty ∧ digits.all Char.isDigit then
      some (if cs.head? = some '-' then -(exponentValue digits : Int) else exponentValue digits)
    else none

/-- The fraction that a text is, apart from its sign. The point may be left out. -/
def fraction? (cs : List Char) : Option Fraction := do
  let cs := unsigned cs
  let whole := cs.takeWhile Char.isDigit
  let (part, rest) := match cs.dropWhile Char.isDigit with
    | '.' :: rest => (rest.takeWhile Char.isDigit, rest.dropWhile Char.isDigit)
    | rest => ([], rest)
  if whole.isEmpty ∧ part.isEmpty then none
  let exponent ← exponent? rest
  some { whole, part, exponent }

/-- The least number that is rounded to no float of 64 bits: halfway between the greatest float and
the power of two after it. -/
def floatBound : Nat := Nat.pow 2 970 * 0x3FFFFFFFFFFFFF

namespace Fraction

/-- Whether the fraction is rounded to a float of 64 bits. -/
def isFloat (f : Fraction) : Bool :=
  let digits := (f.whole ++ f.part).dropWhile (· == '0')
  let m := (Text.digitsValue? 10 digits).getD 0
  let scale := f.exponent - f.part.length
  let size := scale + digits.length
  if m = 0 ∨ size ≤ 308 then true
  else if 310 < size then false
  else if 0 ≤ scale then m * Nat.pow 10 scale.toNat < floatBound
  else m < floatBound * Nat.pow 10 (-scale).toNat

end Fraction

/-- Whether a text is a fraction that is rounded to a float of 64 bits. -/
def isFloat (cs : List Char) : Bool := (fraction? cs).any Fraction.isFloat

/-- Whether every underscore in a text stands between two digits; `afterDigit` says whether the text
comes after one. -/
def underscoresDivide (afterDigit : Bool) : List Char → Bool
  | [] => true
  | '_' :: cs => afterDigit && cs.head?.any Char.isDigit && underscoresDivide false cs
  | c :: cs => underscoresDivide c.isDigit cs

end ModelCompiler.Yaml
