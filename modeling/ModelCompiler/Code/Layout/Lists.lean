import ModelCompiler.Code.Sheet.Comments

/-! # The layout of lists

What is nested in something is laid out by layouts that are given, so that all layouts can be tied
together at the end. -/

namespace ModelCompiler.Code

/-- The layouts of what can be nested. -/
structure Layouts where
  /-- An expression, which stands in parentheses unless it binds at least as tightly as given; the
  second number tells how deep it is nested in others. -/
  expression : Nat → Nat → Expr → Print Unit
  /-- A statement, where the flag says whether a closing brace follows. -/
  statement : Bool → Stmt → Print Unit

namespace Layouts

/-- An expression that stands by itself. -/
def alone (l : Layouts) (x : Expr) : Print Unit := l.expression 0 1 x

/-! ## Sizes -/

/-- The size of what is written for a part of the source, or one more than the limit if it is larger
or takes more than one line. Each part is measured once. -/
def measured (extent : Extent) (p : Print Unit) : Print Nat := do
  match (← get).sizes[extent]? with
  | some size => return size
  | none =>
    let setting := { (← read) with measuring := true, base := 0 }
    let sizes := (← get).sizes
    let sheet := (((do p; Print.writePending) : Print Unit).run setting |>.run { sizes }).2
    let text := trimmed sheet.output.toList
    let isBroken := text.any fun c => c == '\n' || c == '\x0c'
    let size := if isBroken then extent.limit + 1 else min (byteWidth text) (extent.limit + 1)
    modify fun s => { s with sizes := sheet.sizes.insert extent size }
    return size

/-- More than the size of any line. -/
def hugeSize : Nat := 1000000

/-- The size of an expression up to a limit. -/
def sizeUpTo (l : Layouts) (limit : Nat) (x : Expr) : Print Nat :=
  measured { start := x.start, stop := x.stop, limit } (l.alone x)

def sizeOf (l : Layouts) (x : Expr) : Print Nat := l.sizeUpTo hugeSize x

/-! ## Expressions -/

/-- What is known about the items of a list that have been laid out. -/
structure Items where
  count : Nat := 0
  /-- What is put before the first line break. -/
  before : Gap := .indent
  /-- The number of the last item before which a line was broken. -/
  lastBreak? : Option Nat := none
  /-- The size of the last item, or zero if it is not known. -/
  size : Nat := 0
  /-- The number of the items in this section of which the size is known, and the sum of the
  logarithms of their sizes. -/
  sized : Nat := 0
  logarithms : Float := 0
  /-- The line on which the last item begins. -/
  line : Int := 0

/-- Sizes up to this one are small. -/
def smallSize : Nat := 40

/-- The logarithm of a size to the base two, linear between powers of two. -/
def logarithm (size : Nat) : Float :=
  let (fraction, exponent) := (Float.ofNat size).frExp
  Float.ofInt exponent + 2 * (fraction - 1)

/-- The power of two with an exponent, linear between integers: the inverse of the logarithm. -/
def powerOfTwo (x : Float) : Float :=
  let whole := x.floor
  (1 + (x - whole)).scaleB whole.toInt64.toInt

/-- Whether a size differs from the geometric mean of others, which is given by the sum of their
logarithms, by a factor of at least 2.5. -/
def isUneven (size count : Nat) (logarithms : Float) : Bool :=
  let ratio := Float.ofNat size / powerOfTwo (logarithms / Float.ofNat count)
  2.5 * ratio ≤ 1 || 2.5 ≤ ratio

/-- Whether an item begins a section of its own, because its size is not known or differs too much
from those of the items before. -/
def Items.breaksSection (s : Items) (size : Nat) : Bool :=
  if s.size = 0 ∨ size = 0 then true
  else if s.sized = 0 ∨ (s.size ≤ smallSize ∧ size ≤ smallSize) then false
  else isUneven size s.sized s.logarithms

def keyOf? (x : Expr) : Option (Expr × Nat × Expr) := match x.form with
  | .pair key colon value => some (key, colon, value)
  | _ => none

/-- The size of an item, or that of its key, if it fits on a line. -/
def itemSize (l : Layouts) (known : Bool) (x : Expr) : Print Nat := do
  if !known then return 0
  let size ← l.sizeOf x
  if hugeSize < size then return 0
  else match keyOf? x with
    | some (key, _, _) => l.sizeOf key
    | none => return size

/-- Puts a comma after the last item, and a line break or a blank before the next. -/
def separate (s : Items) (x : Expr) (line : Int) (size : Nat) (breaks : Bool) : Print Items := do
  if s.count = 0 then return s
  if !breaks then Print.goTo x.start
  Print.sign ","
  let several := match s.lastBreak? with
    | some i => decide (i + 1 < s.count)
    | none => decide (0 < s.count)
  let n ← if breaks then
      Print.breakTo line 0 s.before (s.breaksSection size || several)
    else pure 0
  if n = 0 then
    Print.gap .blank
    return s
  else
    let s := { s with before := .ignore, lastBreak? := some s.count }
    return if 1 < n then { s with sized := 0, logarithms := 0 } else s

/-- Lays out one item of a list over several lines; `known` says whether the places around the list
are known, and `several` whether it has more than one item. -/
def item (l : Layouts) (depth : Nat) (known several : Bool) (s : Items) (x : Expr) :
    Print Items := do
  let line ← Print.lineOf x.start
  let size ← l.itemSize known x
  let breaks := decide (0 < s.line) && decide (s.line < line)
  let s ← separate s x line size breaks
  match keyOf? x with
  | some (key, colon, value) =>
    if several && 0 < size && breaks then
      l.alone key
      Print.goTo colon
      Print.sign ":"
      Print.gap .tab
      l.alone value
    else l.expression 0 depth x
  | none => l.expression 0 depth x
  let s := { s with count := s.count + 1, size, line }
  return if 0 < size then
    { s with sized := s.sized + 1, logarithms := s.logarithms + logarithm size } else s

/-- Items on one line. -/
def inlineItems (l : Layouts) (depth : Nat) : Bool → List Expr → Print Unit
  | _, [] => return
  | first, x :: xs => do
    if !first then
      Print.goTo x.start
      Print.sign ","
      Print.gap .blank
    l.expression 0 depth x
    inlineItems l depth false xs

/-- A list of expressions between two places, of which the line breaks are kept. A comma may end it
if `terminated` holds, and lines after the first are indented if `indented` holds. -/
def list (l : Layouts) (previous? : Option Nat) (xs : List Expr) (depth : Nat)
    (terminated indented : Bool) (next? : Option Nat) : Print Unit := do
  match xs.head?, xs.getLast? with
  | some first, some last =>
    let previous ← Print.placeOf? previous?
    let next ← Print.placeOf? next?
    let line ← Print.lineOf first.start
    let lastLine ← Print.lineOf last.stop
    if previous.isKnown && previous.line == line && line == lastLine then
      l.inlineItems depth true xs
    else
      let before := if indented then Gap.indent else .ignore
      let n ← if previous.isKnown && previous.line < line then Print.breakTo line 0 before true
        else pure 0
      let start : Items := { before, line := previous.line }
      let start := if 0 < n then { start with before := .ignore, lastBreak? := some 0 } else start
      let known := previous.isKnown && next.isKnown
      let s ← xs.foldlM (l.item depth known (1 < xs.length)) start
      let ends := terminated && next.isKnown && (← get).place.line < next.line
      if ends then Print.sign ","
      if s.before = .ignore ∧ indented then Print.gap .unindent
      if ends then Print.gap .formfeed
  | _, _ => return

def names (l : Layouts) (ns : List Name) (indented : Bool) : Print Unit :=
  l.list none (ns.map Name.toExpr) 1 false indented none

/-! ## Parameters -/

/-- What stands in parentheses. -/
def unwrapped : Nat → Expr → Expr
  | fuel + 1, { form := .parens inner, .. } => unwrapped fuel inner
  | _, x => x

/-- What stands in parentheses, however many there are. -/
def bare (x : Expr) : Expr := unwrapped (x.stop - x.start) x

/-- Whether the name and the type of a parameter could be taken for a length. -/
def readsAsLength : Nat → Expr → Bool
  | 0, _ => false
  | fuel + 1, x => match x.form with
    | .star inner => !isElement fuel inner
    | .binary left _ _ right => readsAsLength fuel left && !isElement fuel right
    | .parens inner => !isElement fuel inner
    | _ => false
where
  isElement : Nat → Expr → Bool
    | 0, _ => false
    | fuel + 1, x => match x.form with
      | .array .. | .record _ | .signature _ | .contract _ | .table .. | .channel .. => true
      | .unary op _ => op == "~"
      | .binary left _ _ right => isElement fuel left || isElement fuel right
      | .parens inner => isElement fuel inner
      | _ => false

/-- Lays out one parameter; `before` is what is put before the first line break, and `last` the line
on which the one before ends. -/
def parameter (l : Layouts) (s : Bool × Gap × Int) (f : Field) : Print (Bool × Gap × Int) := do
  let (first, before, last) := s
  let line ← Print.lineOf f.start
  let breaks := decide (0 < last) && decide (last < line)
  if !first then
    if !breaks then Print.goTo f.start
    Print.sign ","
  let n ← if breaks then Print.breakTo line 0 before true else pure 0
  let before := if 0 < n then Gap.ignore else before
  if n = 0 ∧ !first then Print.gap .blank
  if !f.names.isEmpty then
    l.names f.names (before == .indent)
    Print.gap .blank
  l.alone (bare f.type)
  return (false, before, ← Print.lineOf f.stop)

/-- Parameters between brackets, where `types` says that they are those of a type. -/
def parameters (l : Layouts) (opening closing : String) (types : Bool) (f : Fields) :
    Print Unit := do
  Print.goTo? f.opening?
  Print.sign opening
  if !f.list.isEmpty then
    let (_, before, last) ← f.list.foldlM l.parameter
      (true, .indent, ← Print.lineOf? f.opening?)
    let line ← Print.lineOf? f.closing?
    if 0 < last ∧ last < line then
      Print.sign ","
      let _ ← Print.breakTo line 0 .ignore true
    else if types && f.count == 1 &&
        f.list.any (fun p => readsAsLength (p.type.stop - p.type.start) (bare p.type)) then
      Print.sign ","
    if before = .ignore then Print.gap .unindent
  Print.goTo? f.closing?
  Print.sign closing

/-- The parameters and the results of a function. -/
def signature (l : Layouts) (s : Signature) : Print Unit := do
  match s.types? with
  | some types => l.parameters "[" "]" false types
  | none => pure ()
  l.parameters "(" ")" false s.parameters
  match s.results? with
  | none => pure ()
  | some results =>
    match results.list with
    | [] => pure ()
    | [{ names := [], type, .. }] =>
      Print.gap .blank
      l.alone (bare type)
    | _ =>
      Print.gap .blank
      l.parameters "(" ")" false results

/-! ## Fields -/

/-- A field that fits on a line has at most this size. -/
def maxFieldSize : Nat := 30

/-- Whether fields can stand on the line of their braces. -/
def isShort (l : Layouts) (fs : List Field) : Print Bool := do
  match fs with
  | [f] =>
    if f.tag?.isSome || f.remarked then return false
    let size ← l.sizeUpTo maxFieldSize f.type
    return (if f.names.isEmpty then 0 else 1) + size ≤ maxFieldSize
  | _ => return false

/-- A method, or an embedded type. -/
def method (l : Layouts) (f : Field) : Print Unit := do
  match f.names.head?, f.type.form with
  | some n, .signature s =>
    l.alone n.toExpr
    l.signature s
  | _, _ => l.alone f.type

/-- A field on the line of its braces. -/
def shortField (l : Layouts) (isRecord : Bool) (f : Field) : Print Unit := do
  if isRecord then
    names true f.names
    if !f.names.isEmpty then Print.gap .blank
    l.alone f.type
  else l.method f
where
  names : Bool → List Name → Print Unit
    | _, [] => return
    | first, n :: ns => do
      if !first then
        Print.sign ","
        Print.gap .blank
      l.alone n.toExpr
      names false ns

/-- A field of a record on its own line, with cells for its parts. -/
def field (l : Layouts) (cell : Gap) (f : Field) : Print Unit := do
  if !f.names.isEmpty then
    l.names f.names false
    Print.gap cell
  l.alone f.type
  match f.tag? with
  | some tag =>
    if !f.names.isEmpty ∧ cell = .tab then Print.gap cell
    Print.gap cell
    l.alone tag
  | none =>
    if f.remarked then Print.gaps (List.replicate (if f.names.isEmpty then 2 else 1) cell)

/-- Fields, each on its own line; the note is that of the line of the last one. -/
def fieldLines (write : Field → Print Unit) (note : Nat) : Bool → List Field → Print Unit
  | _, [] => return
  | first, f :: fs => do
    if !first then
      let sectioned := decide (0 < (← Print.linesSince note))
      let _ ← Print.breakTo (← Print.lineOf f.start) 1 .ignore sectioned
    Print.note note
    write f
    fieldLines write note false fs

/-- Fields between braces. -/
def fields (l : Layouts) (isRecord : Bool) (f : Fields) : Print Unit := do
  let hasComments ← Print.commentBefore (← Print.placeOf? f.closing?)
  let onLine := (← Print.lineOf? f.opening?) == (← Print.lineOf? f.closing?)
  if !hasComments && onLine && f.list.isEmpty then
    Print.goTo? f.opening?
    Print.sign "\x7b"
    Print.goTo? f.closing?
    Print.sign "\x7d"
  else if ← pure (!hasComments && onLine) <&&> l.isShort f.list then
    Print.goTo? f.opening?
    Print.sign "\x7b"
    Print.gap .blank
    f.list.forM (l.shortField isRecord)
    Print.gap .blank
    Print.goTo? f.closing?
    Print.sign "\x7d"
  else
    Print.gap .blank
    Print.goTo? f.opening?
    Print.sign "\x7b"
    Print.gap .indent
    if hasComments || !f.list.isEmpty then Print.gap .formfeed
    let note ← Print.newNote
    let cell := if f.list.length = 1 then Gap.blank else .tab
    fieldLines (if isRecord then l.field cell else l.method) note true f.list
    Print.gaps [.unindent, .formfeed]
    Print.goTo? f.closing?
    Print.sign "\x7d"

end Layouts

end ModelCompiler.Code
