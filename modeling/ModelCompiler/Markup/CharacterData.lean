import ModelCompiler.Text.Pieces
import ModelCompiler.Text.Quoted

/-! # Character data and references to characters -/

namespace ModelCompiler.Markup

/-- The characters that a document may hold. -/
def isCharacter (c : Char) : Bool :=
  c == '\t' || c == '\n' || c == '\r' || (0x20 ≤ c.toNat && c.toNat ≤ 0xD7FF) ||
    (0xE000 ≤ c.toNat && c.toNat ≤ 0xFFFD) || 0x10000 ≤ c.toNat

/-- The text with every line ended by a single line feed. -/
def unifyLines : List Char → List Char
  | '\r' :: '\n' :: cs => '\n' :: unifyLines cs
  | '\r' :: cs => '\n' :: unifyLines cs
  | c :: cs => c :: unifyLines cs
  | [] => []

/-- The names of characters that need no declaration. -/
def namedCharacters : List (String × Char) :=
  [("lt", '<'), ("gt", '>'), ("amp", '&'), ("apos", '\''), ("quot", '"')]

/-- The character with a number; the numbers that no character has stand for U+FFFD. -/
def numberedCharacter? (n : Nat) : Option Char :=
  if n.isValidChar then some (Char.ofNat n)
  else if n ≤ 0x10FFFF then some '\ufffd'
  else none

/-- The number written with digits of a base, of which there is at least one. -/
def number? (base : Nat) (digits : List Char) : Option Nat :=
  if digits.isEmpty then none else Text.digitsValue? base digits

/-- The character that a reference stands for, from what is between `&` and `;`. -/
def reference? : List Char → Option Char
  | '#' :: 'x' :: digits => (number? 16 digits).bind numberedCharacter?
  | '#' :: digits => (number? 10 digits).bind numberedCharacter?
  | name => namedCharacters.lookup (String.ofList name)

/-- A text that begins right after `&`, with the reference resolved. -/
def resolveFront? (cs : List Char) : Option (List Char) := do
  let (name, rest) ← Text.cut? ';' cs
  let c ← reference? name
  some (c :: rest)

/-- The text with its references resolved. -/
def resolveReferences? (cs : List Char) : Option (List Char) :=
  match Text.splitBy (· == '&') cs with
  | [] => some []
  | first :: others => (others.mapM resolveFront?).map fun ps => first ++ ps.flatten

/-- The text if it holds nothing but characters of documents. -/
def checked? (cs : List Char) : Option String :=
  if cs.all isCharacter then some (String.ofList cs) else none

/-- The value of an attribute, from what is between its quotes. -/
def attributeValue? (cs : List Char) : Option String :=
  if cs.contains '<' then none else (resolveReferences? (unifyLines cs)).bind checked?

/-- The characters between two pieces of markup, where the end of a literal section may not
stand. -/
def characterData? (cs : List Char) : Option String :=
  if (Text.cutAt? "]]>".toList cs).isSome then none
  else (resolveReferences? (unifyLines cs)).bind checked?

/-- The characters of a literal section, which has no references. -/
def literalData? (cs : List Char) : Option String := checked? (unifyLines cs)

end ModelCompiler.Markup
