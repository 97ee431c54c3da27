import ModelCompiler.Text.Utf8

/-! # Texts written with digits of the base 64 -/

namespace ModelCompiler.Yaml

/-- The value of a digit of the base 64. -/
def digit64? (c : Char) : Option Nat :=
  if 'A' ≤ c ∧ c ≤ 'Z' then some (c.toNat - 'A'.toNat)
  else if 'a' ≤ c ∧ c ≤ 'z' then some (c.toNat - 'a'.toNat + 26)
  else if '0' ≤ c ∧ c ≤ '9' then some (c.toNat - '0'.toNat + 52)
  else if c = '+' then some 62
  else if c = '/' then some 63
  else none

/-- The bytes of four digits of the base 64, of which the last one or two may be padding. -/
def quad? (a b c d : Char) : Option (List UInt8) := do
  let x ← digit64? a
  let y ← digit64? b
  if c = '=' then
    if d = '=' then some [(x * 4 + y / 16).toUInt8] else none
  else
    let z ← digit64? c
    if d = '=' then some [(x * 4 + y / 16).toUInt8, (y % 16 * 16 + z / 4).toUInt8]
    else do
      let w ← digit64? d
      some [(x * 4 + y / 16).toUInt8, (y % 16 * 16 + z / 4).toUInt8, (z % 4 * 64 + w).toUInt8]

def bytes64? : List Char → Option (List UInt8)
  | [] => some []
  | a :: b :: c :: d :: rest => do
    let first ← quad? a b c d
    if d = '=' ∧ !rest.isEmpty then none
    let others ← bytes64? rest
    some (first ++ others)
  | _ => none

/-- The text that is written with digits of the base 64. -/
def text64? (text : String) : Option String :=
  (bytes64? (text.toList.filter fun c => c != '\n' && c != '\r')).map Text.textOfBytes

end ModelCompiler.Yaml
