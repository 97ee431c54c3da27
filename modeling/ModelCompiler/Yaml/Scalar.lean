import ModelCompiler.Text.Quoted
import ModelCompiler.Yaml.Cursor

/-! # Scalars: plain, quoted and in blocks

Every reader here gives the text of a scalar and the position after it, or nothing if the scalar is
malformed. -/

namespace ModelCompiler.Yaml

/-! ## Gaps between words -/

/-- The blanks and the line breaks between two words. Blanks after a break do not count. -/
structure Gap where
  blanks : List Char := []
  breaks : List Char := []
  /-- Whether the first break was escaped, and is none of `breaks`. -/
  escaped : Bool := false
deriving DecidableEq, Repr

namespace Gap

def hasBreak (g : Gap) : Bool := g.escaped || !g.breaks.isEmpty

/-- What a gap means: a single break is a space, and each break after the first stands for
itself. -/
def fold (g : Gap) : List Char :=
  if g.escaped then g.breaks
  else match g.breaks with
    | [] => g.blanks
    | ['\n'] => [' ']
    | '\n' :: others => others
    | breaks => breaks

/-- Reads on in a gap. A tab in the indentation, left of `indent`, is refused. -/
def readFrom (indent : Nat) : Nat → Gap → Cursor → Option (Gap × Cursor)
  | 0, g, c => some (g, c)
  | fuel + 1, g, c =>
    if c.seesAny isBlank then
      let after := c.skip.need 1
      if g.hasBreak then
        if c.sees '\t' ∧ c.column < indent then none else readFrom indent fuel g after
      else readFrom indent fuel { g with blanks := g.blanks ++ (c.rest.take 1) } after
    else if c.seesAny isBreak then
      match (c.need 2).lineBreak? with
      | some (b, after) =>
        readFrom indent fuel { g with blanks := [], breaks := g.breaks ++ [b] } (after.need 1)
      | none => some (g, c)
    else some (g, c)

def read (indent : Nat) (g : Gap) (c : Cursor) : Option (Gap × Cursor) :=
  readFrom indent (c.rest.length + 1) g (c.need 1)

end Gap

/-! ## Plain scalars -/

/-- The word of a plain scalar that stands here. It ends before a colon that ends a key and, between
brackets, before an indicator. -/
def plainWord (inFlow : Bool) : List Char → List Char
  | [] => []
  | c :: cs =>
    if isBlank c || isBreak c then []
    else if c = ':' ∧ isEnd cs.head? then []
    else if inFlow ∧ [',', '?', '[', ']', '\x7b', '\x7d'].contains c then []
    else c :: plainWord inFlow cs

/-- The text of a plain scalar, the gap after it and the position after that. -/
structure Plain where
  text : List Char
  gap : Gap
  cursor : Cursor
deriving DecidableEq, Repr

/-- Reads the words of a plain scalar that belongs right of `indent`, after a text and a gap. -/
def plainFrom (inFlow : Bool) (indent : Nat) : Nat → Plain → Option Plain
  | 0, p => some p
  | fuel + 1, p =>
    let c := p.cursor.need 4
    let p := { p with cursor := c }
    if c.atDocumentMarker || c.sees '#' then some p
    else
      let word := plainWord inFlow c.rest
      if word.isEmpty then some p
      else
        let text := p.text ++ p.gap.fold ++ word
        match Gap.read indent {} (c.pass 2 word.length) with
        | none => none
        | some (gap, after) =>
          let p : Plain := { text, gap, cursor := after }
          if gap = {} then some p
          else if !inFlow && after.column < indent then some p
          else plainFrom inFlow indent fuel p

def plain? (inFlow : Bool) (indent : Nat) (c : Cursor) : Option Plain :=
  plainFrom inFlow indent (c.rest.length + 1) { text := [], gap := {}, cursor := c }

/-! ## Quoted scalars -/

/-- The characters that stand for others after a backslash. -/
def escapes : List (Char × Char) :=
  [('0', '\x00'), ('a', '\x07'), ('b', '\x08'), ('t', '\t'), ('\t', '\t'), ('n', '\n'),
   ('v', '\x0b'), ('f', '\x0c'), ('r', '\r'), ('e', '\x1b'), (' ', ' '), ('"', '"'), ('\'', '\''),
   ('\\', '\\'), ('N', '\x85'), ('_', '\xa0'), ('L', '\u2028'), ('P', '\u2029')]

/-- The numbers of digits of the escapes that give the number of a character. -/
def escapeWidths : List (Char × Nat) := [('x', 2), ('u', 4), ('U', 8)]

/-- The character that an escape stands for, from after its backslash, and its length. -/
def escape? : List Char → Option (Char × Nat)
  | [] => none
  | c :: cs => match escapes.lookup c with
    | some x => some (x, 1)
    | none => do
      let width ← escapeWidths.lookup c
      let digits := cs.take width
      if digits.length < width then none
      let n ← Text.digitsValue? 16 digits
      if n.isValidChar then some (Char.ofNat n, width + 1) else none

/-- How the word of a quoted scalar ends. -/
inductive WordEnd where
  | quote
  | gap
  | escapedBreak
deriving DecidableEq, Repr

/-- The rest of a word of a quoted scalar, how it ends and the position there. -/
def quotedWord (single : Bool) : Nat → List Char → Cursor → Option (List Char × WordEnd × Cursor)
  | 0, _, _ => none
  | fuel + 1, text, c =>
    let plain (x : Char) := quotedWord single fuel (text ++ [x]) (c.skip.need 2)
    match c.rest with
    | [] => none
    | x :: xs =>
      if isBlank x || isBreak x then some (text, .gap, c)
      else if single then
        if x = '\'' then
          if xs.head? = some '\'' then
            quotedWord single fuel (text ++ ['\'']) ((c.skipMany 2).need 2)
          else some (text, .quote, c)
        else plain x
      else if x = '"' then some (text, .quote, c)
      else if x = '\\' then
        if xs.head?.any isBreak then some (text, .escapedBreak, (c.need 3).skip.skipBreak)
        else do
          let (y, length) ← escape? xs
          let after := (((c.skipMany 2).need (length - 1)).skipMany (length - 1)).need 2
          quotedWord single fuel (text ++ [y]) after
      else plain x

/-- Reads the words of a quoted scalar, from a position inside it. -/
def quotedFrom (single : Bool) : Nat → List Char → Cursor → Option (List Char × Cursor)
  | 0, _, _ => none
  | fuel + 1, text, c =>
    let c := c.need 4
    if c.atDocumentMarker then none
    else do
      let (text, ending, c) ← quotedWord single (c.rest.length + 1) text c
      match ending with
      | .quote => some (text, c.skip)
      | .gap =>
        let (gap, c) ← Gap.read 0 {} c
        quotedFrom single fuel (text ++ gap.fold) c
      | .escapedBreak =>
        let (gap, c) ← Gap.read 0 { escaped := true } c
        quotedFrom single fuel (text ++ gap.fold) c

/-- The scalar whose opening quote stands here. -/
def quoted? (single : Bool) (c : Cursor) : Option (List Char × Cursor) :=
  quotedFrom single (c.rest.length + 1) [] c.skip

/-! ## Blocks -/

/-- Which line breaks at the end of a block are kept. -/
inductive Chomping where
  | strip
  | clip
  | keep
deriving DecidableEq, Repr

def chomping? (c : Cursor) : Option Chomping :=
  match c.head? with
  | some '+' => some .keep
  | some '-' => some .strip
  | _ => none

/-- The indentation that a block states, which is not zero. -/
def indentation? (c : Cursor) : Option Nat :=
  match c.head? with
  | some d => if d.isDigit then some (d.toNat - '0'.toNat) else none
  | none => none

/-- The two indicators of a block, which may come in either order, and the position after them. -/
def blockHeader? (c : Cursor) : Option (Chomping × Option Nat × Cursor) :=
  let checked (k : Chomping) (n : Option Nat) (c : Cursor) :
      Option (Chomping × Option Nat × Cursor) :=
    if n = some 0 then none else some (k, n, c)
  let after := c.skip.need 1
  match chomping? c with
  | some k => match indentation? after with
    | some n => checked k (some n) after.skip
    | none => checked k none after
  | none => match indentation? c with
    | some n => match chomping? after with
      | some k => checked k (some n) after.skip
      | none => checked .clip (some n) after
    | none => checked .clip none c

/-- The empty lines here and the indentation of the line after them: the deepest of them all, if
none is given. A tab in the indentation is refused. -/
def blockBreaks (indent : Option Nat) :
    Nat → Nat → List Char → Cursor → Option (List Char × Nat × Cursor)
  | 0, deepest, breaks, c => some (breaks, deepest, c)
  | fuel + 1, deepest, breaks, c =>
    let c := c.need 1
    let spaces := (c.rest.takeWhile (· == ' ')).length
    let c := c.pass 1 (match indent with
      | none => spaces
      | some n => min spaces (n - c.column))
    let deepest := max deepest c.column
    let inIndent := match indent with
      | none => true
      | some n => c.column < n
    if inIndent && c.sees '\t' then none
    else if c.seesAny isBreak then
      match (c.need 2).lineBreak? with
      | some (b, c) => blockBreaks indent fuel deepest (breaks ++ [b]) c
      | none => some (breaks, deepest, c)
    else some (breaks, deepest, c)

def blockBreaks? (indent : Option Nat) (c : Cursor) : Option (List Char × Nat × Cursor) :=
  blockBreaks indent (c.rest.length + 1) 0 [] c

/-- The text of a block so far: the break that ended its last line and the empty lines after it. -/
structure Block where
  text : List Char := []
  lastBreak : List Char := []
  empty : List Char := []
  /-- Whether the last line began with a blank. -/
  indented : Bool := false
deriving DecidableEq, Repr

namespace Block

/-- The block with one more line. In a folded block a break between two lines that do not begin
with a blank is a space, unless empty lines stand for it. -/
def add (literal : Bool) (b : Block) (line lastBreak empty : List Char) : Block :=
  let indented := line.head?.any isBlank
  let joint :=
    if !literal ∧ !b.indented ∧ !indented ∧ b.lastBreak = ['\n'] then
      if b.empty.isEmpty then [' '] else []
    else b.lastBreak
  { text := b.text ++ joint ++ b.empty ++ line, lastBreak, empty, indented }

/-- Reads lines with an indentation. -/
def readFrom (literal : Bool) (indent : Nat) : Nat → Block → Cursor → Option (Block × Cursor)
  | 0, b, c => some (b, c)
  | fuel + 1, b, c =>
    if c.column = indent ∧ !c.rest.isEmpty then do
      let (line, c) := c.span fun x => !isBreak x
      let c := c.need 2
      let (lastBreak, c) := match c.lineBreak? with
        | some (x, after) => ([x], after)
        | none => ([], c)
      let (empty, _, c) ← blockBreaks? (some indent) c
      readFrom literal indent fuel (b.add literal line lastBreak empty) c
    else some (b, c)

def chomped (b : Block) : Chomping → List Char
  | .strip => b.text
  | .clip => b.text ++ b.lastBreak
  | .keep => b.text ++ b.lastBreak ++ b.empty

end Block

/-- The block whose indicator stands here, in a collection with an indentation. -/
def block? (literal : Bool) (parent : Int) (c : Cursor) : Option (List Char × Cursor) := do
  let (chomping, increment, c) ← blockHeader? (c.skip.need 1)
  let c := (c.need 1).skipWhile isBlank
  let c := if c.sees '#' then c.skipLineComment else c
  if !isLineEnd c.head? then none
  let c := c.skipBreak
  let stated := increment.map fun n => if 0 ≤ parent then parent.toNat + n else n
  let (empty, deepest, c) ← blockBreaks? stated c
  let indent := stated.getD (max (max deepest (parent + 1).toNat) 1)
  let (b, c) ← Block.readFrom literal indent (c.rest.length + 1) { empty } c
  some (b.chomped chomping, c)

end ModelCompiler.Yaml
