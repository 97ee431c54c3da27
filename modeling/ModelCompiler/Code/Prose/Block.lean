import ModelCompiler.Text.Blank
import ModelCompiler.Text.Case
import ModelCompiler.Text.Letter
import ModelCompiler.Text.Pieces

/-! # Prose: the blocks of a comment that documents something

Lines that are indented form code or a list, and others form paragraphs and headings. Where the
indentation is not as it should be, a few lines before or after it are taken along. -/

namespace ModelCompiler.Code.Prose

/-! ## Lines -/

def isSpace (c : Char) : Bool := c == ' ' || c == '\t'

def isIndented (line : List Char) : Bool := line.head?.any isSpace

/-- What two texts both begin with. -/
def commonStart : List Char → List Char → List Char
  | a :: as, b :: bs => if a = b then a :: commonStart as bs else []
  | _, _ => []

/-- The lines without those at the two ends that `p` picks out. -/
def trimLines (p : List Char → Bool) (lines : List (List Char)) : List (List Char) :=
  ((lines.dropWhile p).reverse.dropWhile p).reverse

/-- The lines without the indentation that they share and without blank lines at the two ends. A
line of blanks counts as empty. -/
def unindent (lines : List (List Char)) : List (List Char) :=
  let lines := trimLines List.isEmpty lines
  let shared := match lines with
    | [] => []
    | first :: rest => (rest.filter (!·.isEmpty)).foldl
      (fun start line => commonStart start (line.takeWhile isSpace)) (first.takeWhile isSpace)
  let short := lines.map fun line =>
    let line := (Text.dropBeginning? shared line).getD line
    if (Text.trim line).isEmpty then [] else line
  trimLines List.isEmpty short

/-- The number before an item of a list, which is empty for a bullet, and the text after it. -/
def marker? (line : List Char) : Option (List Char × List Char) := do
  let (number, rest) ← match Text.trim line with
    | [] => none
    | c :: cs =>
      if ['•', '*', '+', '-'].contains c then some ([], cs)
      else if c.isDigit then
        match (c :: cs).dropWhile Char.isDigit with
        | d :: rest =>
          if d = '.' ∨ d = ')' then some ((c :: cs).takeWhile Char.isDigit, rest) else none
        | [] => none
      else none
  if isIndented rest && !(Text.trim rest).isEmpty then some (number, rest) else none

def isItem (line : List Char) : Bool := (marker? line).isSome

/-! ## Headings -/

/-- Whether a line is a heading by its mark. -/
def isMarkedHeading (line : List Char) : Bool :=
  match line with
  | '#' :: c :: _ => isSpace c && Text.trim line != ['#']
  | _ => false

/-- What may not stand in a heading without a mark. -/
def headingStops : List Char := ";:!?+*/=[]\x7b\x7d_^°&§~%#@<\">\\".toList

/-- Whether `ok` holds of the text after each occurrence of a character. -/
def allAfter (c : Char) (ok : List Char → Bool) : List Char → Bool
  | [] => true
  | d :: rest => (d != c || ok rest) && allAfter c ok rest

/-- Whether a line is a heading by its form: it begins with an upper-case letter, ends with a letter
or digit, and holds hardly any punctuation. -/
def looksLikeHeading (line : List Char) : Bool :=
  let line := Text.trim line
  line.head?.any (fun c => Text.isLetter c && Text.isUpper c) &&
  line.getLast?.any (fun c => Text.isLetter c || Text.isDigit c) &&
  !line.any headingStops.contains &&
  allAfter '\x27' (fun rest => rest == ['s'] || "s ".toList.isPrefixOf rest) line &&
  allAfter '.' (fun rest => !rest.isEmpty && rest.head? != some ' ') line

/-! ## Spans -/

inductive SpanKind where
  | items
  | code
  | markedHeading
  | heading
  | paragraph
deriving DecidableEq, Repr

/-- The lines from `start` on and before `stop`. -/
structure Span where
  start : Nat
  stop : Nat
  kind : SpanKind
deriving DecidableEq, Repr

section

variable (lines : Array (List Char))

def line (i : Nat) : List Char := lines[i]?.getD []

def isFilled (i : Nat) : Bool := !(line lines i).isEmpty

/-- The first place from `i` on where `p` fails. -/
def runEnd (p : Nat → Bool) : Nat → Nat → Nat
  | 0, i => i
  | fuel + 1, i => if i < lines.size && p i then runEnd p fuel (i + 1) else i

/-- The place after `start` back to which `p` holds of all lines before `i`. -/
def runStart (start : Nat) (p : Nat → Bool) : Nat → Nat
  | 0 => 0
  | i + 1 => if start < i + 1 && p i then runStart start p i else i + 1

/-- The end of indented lines; those before `forced` count as indented. While `items` holds, so do
items of a list, up to the first blank line. -/
def indentedEnd (forced : Nat) : Nat → Nat → Bool → Nat
  | 0, i, _ => i
  | fuel + 1, i, items =>
    let l := line lines i
    if i < lines.size && (l.isEmpty || i < forced || isIndented l || (items && isItem l)) then
      indentedEnd forced fuel (i + 1) (items && !l.isEmpty)
    else i

/-- A span of indented lines. A closing brace on the line after it belongs to it. -/
def indentedSpan (forced start : Nat) : Span :=
  let first := line lines start
  let stop := indentedEnd lines forced lines.size (start + 1) (isItem first && start < forced)
  let stop := runStart start (fun i => !isFilled lines i) stop
  let stop := if (line lines stop).head? = some '\x7d' then stop + 1 else stop
  { start, stop, kind := if isItem first then .items else .code }

/-- The end of lines that are not indented, and the place up to which lines then count as indented.
If an indented line follows, the items of a list before it are left to it, or a line that ends in an
opening brace or a backslash. -/
def plainEnd (forced start : Nat) : Nat × Nat :=
  let stop := runEnd lines (fun i => isFilled lines i && !isIndented (line lines i)) lines.size
    (start + 1)
  if isFilled lines stop && !isItem (line lines stop) then
    let last := line lines (stop - 1)
    if isItem last then (runStart start (fun i => isItem (line lines i)) (stop - 1), stop)
    else if last.getLast? = some '\x7b' ∨ last.getLast? = some '\\' then (stop - 1, stop)
    else (stop, forced)
  else (stop, forced)

/-- Whether a line stands alone before a paragraph and after something else. -/
def standsAlone (i : Nat) : Bool :=
  0 < i && !isFilled lines (i - 1) && i + 2 < lines.size && !isFilled lines (i + 1) &&
    !isIndented (line lines (i + 2))

def plainKind (start stop : Nat) : SpanKind :=
  let l := line lines start
  if stop = start + 1 ∧ isMarkedHeading l then .markedHeading
  else if stop = start + 1 ∧ standsAlone lines start ∧ looksLikeHeading l then .heading
  else .paragraph

/-- The spans from a line on; lines before `forced` count as indented. -/
def spansFrom : Nat → Nat → Nat → List Span
  | 0, _, _ => []
  | fuel + 1, i, forced =>
    let start := runEnd lines (fun i => !isFilled lines i) lines.size i
    if lines.size ≤ start then []
    else if start < forced || isIndented (line lines start) then
      let span := indentedSpan lines forced start
      span :: spansFrom fuel span.stop forced
    else
      let (stop, forced) := plainEnd lines forced start
      if stop = start then spansFrom fuel start forced
      else { start, stop, kind := plainKind lines start stop } :: spansFrom fuel stop forced

end

/-! ## Blocks -/

/-- What a name in brackets leads to. -/
structure Link where
  text : List Char
  target : List Char
deriving DecidableEq, Repr

structure Item where
  number : List Char
  paragraphs : List (List Char)
deriving DecidableEq, Repr

inductive Block where
  | paragraph (text : List Char)
  | heading (text : List Char)
  | code (lines : List (List Char))
  /-- A list, and whether blank lines stand before it and between its items. -/
  | items (list : List Item) (before between : Bool)
deriving DecidableEq, Repr

def schemes : List (List Char) :=
  ["file", "ftp", "gopher", "http", "https", "mailto", "nntp"].map String.toList

/-- The definition of a link. -/
def link? (line : List Char) : Option Link := do
  let rest ← Text.dropBeginning? ['['] line
  let (text, rest) ← Text.cutAt? "]:".toList rest
  if !isIndented rest || rest.length < 2 then none
  let target := Text.trim rest
  let (scheme, _) ← Text.cutAt? "://".toList target
  if schemes.contains scheme then some { text, target } else none

/-- The links that lines define, or the paragraph that they are. -/
def paragraph (lines : List (List Char)) : List Link ⊕ List Char :=
  match lines.mapM link? with
  | some links => .inl links
  | none => .inr (['\n'].intercalate lines)

/-- A list that is being read. -/
structure Listing where
  /-- The items, the last of which comes first. -/
  items : List Item := []
  /-- The lines of a paragraph, the last of which comes first. -/
  lines : List (List Char) := []
  links : List Link := []
  /-- Whether a blank line has been met. -/
  loose : Bool := false

namespace Listing

/-- Ends a paragraph. -/
def flush (l : Listing) : Listing :=
  match l.items with
  | [] => { l with lines := [] }
  | item :: items =>
    match paragraph l.lines.reverse with
    | .inl links => { l with lines := [], links := l.links ++ links }
    | .inr text =>
      { l with
        lines := [], items := { item with paragraphs := item.paragraphs ++ [text] } :: items }

/-- Reads a line of a list, the items of which have numbers if `numbered` holds. -/
def add (numbered : Bool) (l : Listing) (line : List Char) : Listing :=
  let (l, line) := match marker? line with
    | some (number, rest) =>
      if !number.isEmpty == numbered then
        let l := l.flush
        ({ l with items := { number, paragraphs := [] } :: l.items }, rest)
      else (l, line)
    | none => (l, line)
  let line := Text.trim line
  if line.isEmpty then { l.flush with loose := true } else { l with lines := line :: l.lines }

end Listing

/-- A list, where `before` says whether a blank line comes before it. -/
def listing (before : Bool) (lines : List (List Char)) : Block × List Link :=
  let numbered := (lines.head?.bind marker?).any fun m => !m.1.isEmpty
  let l := (lines.foldl (Listing.add numbered) {}).flush
  let items := l.items.reverse
  let between := l.loose || items.any (·.paragraphs.length != 1)
  (.items items (before || between) between, l.links)

/-- The block of a span, and the links that it defines. `last` is the end of the span before. -/
def blockOf (lines : Array (List Char)) (last : Nat) (s : Span) : Option Block × List Link :=
  let own := (lines.extract s.start s.stop).toList
  let first := line lines s.start
  match s.kind with
  | .items =>
    let (block, links) := listing (last < s.start) own
    (some block, links)
  | .code => (some (.code (unindent own)), [])
  | .markedHeading => (some (.heading (Text.trim (first.drop 1))), [])
  | .heading => (some (.heading (Text.trim first)), [])
  | .paragraph => match paragraph own with
    | .inl links => (none, links)
    | .inr text => (some (.paragraph text), [])

def blocksFrom (lines : Array (List Char)) : Nat → List Span → List Block × List Link
  | _, [] => ([], [])
  | last, s :: spans =>
    let (block?, links) := blockOf lines last s
    let (blocks, more) := blocksFrom lines s.stop spans
    (block?.toList ++ blocks, links ++ more)

/-- The blocks of a text, and the links that it defines. -/
def blocks (text : List Char) : List Block × List Link :=
  let lines := (unindent (Text.splitBy (· == '\n') text)).toArray
  blocksFrom lines 0 (spansFrom lines (2 * lines.size + 2) 0 0)

end ModelCompiler.Code.Prose
