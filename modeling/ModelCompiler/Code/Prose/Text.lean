import ModelCompiler.Code.Prose.Block
import ModelCompiler.Code.Prose.Reference

/-! # Prose: the text of the blocks -/

namespace ModelCompiler.Code.Prose

/-! ## Addresses -/

def isHostChar (c : Char) : Bool := c.isAlphanum || "_@-.[]:".toList.contains c

/-- Marks that an address may hold, but not at its end. -/
def isPause (c : Char) : Bool := ".,:;?!".toList.contains c

def isPathChar (c : Char) : Bool :=
  c.isAlphanum || "$\x27()*+&#=@~_/-[]\x7b\x7d%".toList.contains c

def closingOf? (c : Char) : Option Char :=
  if c = '(' then some ')' else if c = '\x7b' then some '\x7d'
  else if c = '[' then some ']' else none

/-- The length of the longest path at the beginning of a text in which brackets match; `seen`
characters have been read, `open_` brackets wait for theirs, and `best` is the length so far. -/
def pathLength : Nat → List Char → Nat → List Char → Nat
  | _, _, best, [] => best
  | seen, open_, best, c :: cs =>
    if isPause c then pathLength (seen + 1) open_ best cs
    else if !isPathChar c then best
    else match closingOf? c with
      | some d => pathLength (seen + 1) (d :: open_) best cs
      | none =>
        if c = ')' ∨ c = '\x7d' ∨ c = ']' then
          match open_ with
          | d :: rest =>
            if c = d then pathLength (seen + 1) rest (if rest.isEmpty then seen + 1 else best) cs
            else best
          | [] => best
        else pathLength (seen + 1) open_ (if open_.isEmpty then seen + 1 else best) cs

/-- The length of the host at the beginning of a text. -/
def hostLength (cs : List Char) : Nat :=
  let run := cs.takeWhile isHostChar
  run.length - (run.reverse.takeWhile isPause).length

/-- The length of the address at the beginning of a text. -/
def addressLength? (cs : List Char) : Option Nat := do
  let scheme ← schemes.find? fun s => (s ++ "://".toList).isPrefixOf cs
  let rest := cs.drop (scheme.length + 3)
  if !rest.head?.any (fun c => isHostChar c && !isPause c) then none
  let host := hostLength rest
  some (scheme.length + 3 + host + pathLength 0 [] 0 (rest.drop host))

/-! ## Quotes -/

/-- The character that begins at an offset in bytes. -/
def charAt? : List Char → Nat → Option Char
  | [], _ => none
  | c :: _, 0 => some c
  | c :: cs, n => if n < c.utf8Size then none else charAt? cs (n - c.utf8Size)

/-- The number of backquotes from an offset in bytes on. -/
def ticksFrom (cs : List Char) (n : Nat) : Nat → Nat
  | 0 => 0
  | fuel + 1 => if charAt? cs n = some '\x60' then ticksFrom cs (n + 1) fuel + 1 else 0

/-- The characters at the beginning of a text that take a number of bytes, or one character more if
the last of these bytes is not the last of its character, and the rest. -/
def splitBytes : Nat → List Char → List Char × List Char
  | 0, cs => ([], cs)
  | _, [] => ([], [])
  | n + 1, c :: cs =>
    let (first, rest) := splitBytes (n + 1 - c.utf8Size) cs
    (c :: first, rest)

/-- The size of a text in bytes. -/
def sizeInBytes (cs : List Char) : Nat := cs.foldl (fun n c => n + c.utf8Size) 0

/-- A text with doubled quotes made round; `offset` bytes come before it. Addresses and names are
left as they are if `addresses` holds. So are three backquotes, and after them as many bytes as
there are backquotes as far behind them as they are from the beginning. -/
def roundQuotes (addresses : Bool) : Nat → Nat → List Char → List Char
  | 0, _, cs => cs
  | _, _, [] => []
  | fuel + 1, offset, c :: cs =>
    let whole := if addresses then (addressLength? (c :: cs)).getD (nameLength (c :: cs)) else 0
    let keep := fun (kept, rest) =>
      kept ++ roundQuotes addresses fuel (offset + sizeInBytes kept) rest
    if 0 < whole then keep ((c :: cs).splitAt whole)
    else match c, cs with
      | '\x60', '\x60' :: '\x60' :: _ =>
        keep (splitBytes (3 + ticksFrom (c :: cs) (offset + 3) cs.length) (c :: cs))
      | '\x60', '\x60' :: rest => '“' :: roundQuotes addresses fuel (offset + 2) rest
      | '\x27', '\x27' :: rest => '”' :: roundQuotes addresses fuel (offset + 2) rest
      | c, cs => keep ([c], cs)

def rounded (addresses : Bool) (cs : List Char) : List Char :=
  roundQuotes addresses cs.length 0 cs

/-! ## Links -/

/-- A text that is being searched for links. -/
structure Search where
  done : List Char := []
  /-- The names of the defined links that have been found. -/
  used : List (List Char) := []
  /-- What comes after that and before the last bracket, the last character first. -/
  before : List Char := []
  /-- What comes after the last bracket, the last character first. -/
  inside? : Option (List Char) := none
  /-- The name so far, the last character first. -/
  name : List Char := []

namespace Search

/-- All that is not done, the last character first. -/
def pending (s : Search) : List Char := match s.inside? with
  | some inside => inside ++ '[' :: s.before
  | none => s.before

/-- Ends a link with the given text. What comes before it and its text are texts of their own. -/
def close (s : Search) (text : List Char) : Search :=
  { done := s.done ++ rounded true s.before.reverse ++ '[' :: rounded false text ++ [']'],
    used := s.used }

/-- Reads a character, after which another one may come. -/
def step (links : List Link) (s : Search) (c : Char) (next? : Option Char) : Search :=
  if c = '[' then { s with before := s.pending, inside? := some [] }
  else if c = ']' then
    match s.inside? with
    | none => { s with before := c :: s.before }
    | some inside =>
      let name := s.name.reverse
      let text := inside.reverse
      if links.any (·.text == name) then { s.close text with used := name :: s.used }
      else if isReference s.before.head? next? text then s.close text
      else { s with before := c :: s.pending, inside? := none, name := [] }
  else match s.inside? with
    | none => { s with before := c :: s.before }
    | some inside =>
      let d := if c = '\n' ∨ c = '\t' then ' ' else c
      { s with inside? := some (c :: inside), name := d :: s.name }

def run (links : List Link) : Search → List Char → Search
  | s, [] => s
  | s, c :: cs => run links (s.step links c cs.head?) cs

end Search

/-- A paragraph as it is written, and the names of the defined links in it. -/
def written (links : List Link) (cs : List Char) : List Char × List (List Char) :=
  let s := Search.run links {} cs
  (s.done ++ rounded true s.pending.reverse, s.used)

/-! ## Blocks -/

/-- A text, the lines of which are indented apart from the first. -/
def hanging (indent : List Char) (cs : List Char) : List Char :=
  cs.flatMap fun c => if c = '\n' then '\n' :: indent else [c]

def itemIndent : List Char := "    ".toList

def itemText (links : List Link) (i : Item) : List Char × List (List Char) :=
  let mark := if i.number.isEmpty then "  - ".toList else ' ' :: i.number ++ ". ".toList
  let paragraphs := i.paragraphs.map (written links)
  let texts := paragraphs.map fun p => hanging itemIndent p.1 ++ ['\n']
  (mark ++ ('\n' :: itemIndent).intercalate texts, paragraphs.flatMap (·.2))

def blockText (links : List Link) : Block → List Char × List (List Char)
  | .paragraph text =>
    let (text, used) := written links text
    (text ++ ['\n'], used)
  | .heading text => ("# ".toList ++ text ++ ['\n'], [])
  | .code lines =>
    (lines.flatMap fun l => (if l.isEmpty then [] else '\t' :: l) ++ ['\n'], [])
  | .items list _ between =>
    let items := list.map (itemText links)
    ((if between then ['\n'] else []).intercalate (items.map (·.1)), items.flatMap (·.2))

def blankBefore : Block → Bool
  | .items _ before _ => before
  | _ => true

/-- Definitions of links, after a blank line. -/
def linkLines (links : List Link) : List Char :=
  if links.isEmpty then []
  else '\n' :: links.flatMap fun l => '[' :: l.text ++ "]: ".toList ++ l.target ++ ['\n']

/-- The links of a text apart from those with a name that an earlier one has. -/
def isFirst (links : List Link) (i : Nat) (l : Link) : Bool :=
  !(links.take i).any (·.text == l.text)

/-- A text as prose is written: links that are used come after it, and then those that are not. -/
def layout (text : List Char) : List Char :=
  let (blocks, links) := blocks text
  let parts := blocks.map fun b => (b, blockText links b)
  let used := parts.flatMap (·.2.2)
  let body := parts.foldl (fun out (b, text, _) =>
    out ++ (if !out.isEmpty && blankBefore b then ['\n'] else []) ++ text) []
  let numbered := links.zipIdx
  let isUsed := fun (l, i) => used.contains l.text && isFirst links i l
  body ++ linkLines ((numbered.filter isUsed).map (·.1)) ++
    linkLines ((numbered.filter (!isUsed ·)).map (·.1))

end ModelCompiler.Code.Prose
