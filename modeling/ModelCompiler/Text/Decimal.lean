/-! # Decimal numbers of 64 bits -/

namespace ModelCompiler.Text

/-- The value of a run of ASCII digits, which may not be empty. -/
def natOfDigits? (cs : List Char) : Option Nat :=
  if cs.isEmpty then none
  else cs.foldlM (fun acc c => if c.isDigit then some (acc * 10 + (c.toNat - 48)) else none) 0

/-- A decimal number with an optional sign, if it fits a signed word of 64 bits. -/
def int64OfChars? (cs : List Char) : Option Int := do
  let value : Int ← match cs with
    | '-' :: ds => (natOfDigits? ds).map fun n => -(n : Int)
    | '+' :: ds => (natOfDigits? ds).map Int.ofNat
    | ds => (natOfDigits? ds).map Int.ofNat
  if -0x8000000000000000 ≤ value ∧ value < 0x8000000000000000 then some value else none

end ModelCompiler.Text
