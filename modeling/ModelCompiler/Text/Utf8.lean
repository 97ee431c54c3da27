/-! # Characters as bytes -/

namespace ModelCompiler.Text

/-- The bytes of a character in UTF-8. -/
def utf8Bytes (c : Char) : List UInt8 := (String.singleton c).toUTF8.toList

/-- The number of bytes of a character in UTF-8, from the first of them, or zero if there is no such
character. -/
def utf8Width (b : UInt8) : Nat :=
  if b &&& 0x80 == 0 then 1
  else if b &&& 0xE0 == 0xC0 then 2
  else if b &&& 0xF0 == 0xE0 then 3
  else if b &&& 0xF8 == 0xF0 then 4
  else 0

/-- The character that stands for bytes that are none. -/
def replacement : Char := '\ufffd'

/-- The character that begins a list of bytes, if there is one. -/
def firstChar? (bytes : List UInt8) : Option Char := do
  let b ← bytes.head?
  let s ← String.fromUTF8? ⟨(bytes.take (utf8Width b)).toArray⟩
  s.toList.head?

/-- The text of bytes; a byte that is no part of a character is replaced. -/
def charsOfBytes : Nat → List UInt8 → List Char
  | _, [] => []
  | 0, _ => []
  | fuel + 1, bytes => match firstChar? bytes with
    | some c => c :: charsOfBytes fuel (bytes.drop c.utf8Size)
    | none => replacement :: charsOfBytes fuel (bytes.drop 1)

def textOfBytes (bytes : List UInt8) : String :=
  String.ofList (charsOfBytes bytes.length bytes)

end ModelCompiler.Text
