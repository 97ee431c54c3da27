import ModelCompiler.Code.Condition
import ModelCompiler.Code.Margin
import ModelCompiler.Code.Prose.Text
import ModelCompiler.Code.Sheet

/-! # Comments on a sheet -/

namespace ModelCompiler.Code

/-! ## Comments that document something -/

namespace Comment

/-- Whether a comment, without its mark, is meant for a tool. -/
def isDirective (body : List Char) : Bool :=
  ["line ", "extern ", "export "].any (·.toList.isPrefixOf body) ||
  match Text.cut? ':' body with
  | some (tool, c :: _) =>
    let isPlain := fun c : Char => c.isLower || c.isDigit
    !tool.isEmpty && tool.all isPlain && isPlain c
  | _ => false

/-- Whether every line of a text but the first begins with a star. -/
def hasStars (text : List Char) : Bool :=
  ((Text.splitBy (· == '\n') text).drop 1).all fun line =>
    (line.dropWhile Prose.isSpace).head? == some '*'

/-- The lines of a text, each of which has an end. -/
def linesOf (text : List Char) : List (List Char) :=
  if text.isEmpty then [] else Text.splitBy (· == '\n') (Text.dropEnding ['\n'] text)

/-- A line of prose as a comment. -/
def ofProse (line : List Char) : List Char :=
  if line.isEmpty then "//".toList
  else if line.head? = some '\t' then "//".toList ++ line
  else "// ".toList ++ line

/-- The text of a comment up to the end of its line, without its mark. -/
def body? (c : Comment) : Option (List Char) := Text.dropBeginning? "//".toList c.text

/-- Comments that document something: their text is laid out as prose, and those that are meant for
a tool come last. -/
def documenting (group : CommentGroup) : CommentGroup :=
  match group with
  | [] => []
  | first :: rest =>
    let put := fun text => ({ start := first.start, text } : Comment)
    if "/*".toList.isPrefixOf first.text then
      if !rest.isEmpty || !first.text.contains '\n' || hasStars first.text then group
      else
        let text := (first.text.drop 2).take (first.text.length - 4)
        [put ("/*\n".toList ++ Prose.layout text ++ "*/".toList)]
    else match group.mapM body? with
      | none => group
      | some bodies =>
        let text := (bodies.filter (!isDirective ·)).flatMap fun b =>
          Text.dropBeginning? [' '] b |>.getD b |>.append ['\n']
        if text.isEmpty then group
        else
          let tools := (bodies.filter isDirective).map ("//".toList ++ ·)
          let lines := (linesOf (Prose.layout text)).map ofProse
          (lines ++ if tools.isEmpty then [] else "//".toList :: tools).map put

end Comment

namespace Print

/-! ## What comes next -/

/-- Whether comments of a group take more than one line. -/
def spansLines (group : CommentGroup) : Print Bool := do
  let lines ← group.mapM fun c => lineOf c.start
  return lines.any (some · != lines.head?) || group.any fun c => c.endsLine || c.text.contains '\n'

/-- Whether comments come before the next place, and can be written without ending a statement. -/
def commentBefore (next : Place) : Print Bool := do
  let s ← get
  match s.comments with
  | [] => return false
  | [] :: _ => return false
  | (c :: cs) :: _ =>
    return (c.start : Int) < next.offset && (!s.closes || !(← spansLines (c :: cs)))

/-- The size of the comments before the next place. -/
def commentSize (next : Place) : Print Nat := do
  let s ← get
  let sizes ← go s.comments
  set s
  return sizes
where
  go : List CommentGroup → Print Nat
    | [] => return 0
    | group :: groups => do
      if ← commentBefore next then
        modify fun s => { s with comments := groups }
        return (group.map fun c => byteWidth c.text).sum + (← go groups)
      else return 0

/-! ## Space around comments -/

/-- The white space that is written before a comment on the line of the last token, and the white
space after the comment. -/
def splitInLine (gs : List Gap) : List Gap × List Gap :=
  let isSpace := fun g => g == Gap.blank || g == .tab || g == .indent
  let run := (gs.takeWhile isSpace).map fun g => if g = .blank then .ignore else g
  match gs.dropWhile isSpace with
  | [] => ([], run)
  | rest => (run, rest)

/-- The same before a comment on a line of its own, where `aligned` says whether the comment has the
column of the next token and that is not a closing brace. The last result says whether a line break
was dropped. -/
def splitBetween (aligned : Bool) : List Gap → List Gap × List Gap × Bool
  | [] => ([], [], false)
  | g :: gs =>
    let stop := ([], g :: gs, false)
    let goOn := fun g =>
      let (run, rest, dropped) := splitBetween aligned gs
      (g :: run, rest, dropped)
    match g with
    | .blank | .tab => goOn .ignore
    | .indent => goOn g
    | .unindent => if gs.head? = some .unindent ∨ aligned then goOn g else stop
    | .newline | .formfeed => ([], .ignore :: gs, true)
    | .ignore => stop

/-- Writes the white space before a comment at a place; `previous?` is the comment before it. -/
def writeBefore (place next : Place) (previous? : Option Comment) (mark : Mark) : Print Unit := do
  let s ← get
  if s.output.isEmpty then return
  if place.line = s.lastPlace.line ∧ !previous?.any (·.endsLine) then
    let hasTab := s.pending.takeWhile (fun g => g == .blank || g == .tab || g == .indent)
      |>.contains .tab
    if previous?.isNone then
      let (run, rest) := splitInLine s.pending
      modify fun s => { s with pending := rest }
      writeGaps run
    if !(previous?.isNone && hasTab) then
      writeSpace (if place.line = next.line then ' ' else '\t') 1
  else
    let aligned := mark != .sign "\x7d" && place.column == next.column
    let (run, rest, dropped) := splitBetween aligned s.pending
    if rest.isEmpty then modify fun s => { s with pending := run }
    else
      modify fun s => { s with pending := rest }
      writeGaps run
    let s ← get
    let n : Int :=
      if place.isKnown && s.lastPlace.isKnown then max 0 (place.line - s.lastPlace.line) else 0
    let n := if s.indent = 0 ∧ dropped ∧ previous?.isNone then n + 1 else n
    let n := if n = 0 ∧ previous?.any (·.endsLine) then 1 else n
    if 0 < n then writeSpace '\x0c' (min n maxBreaks).toNat

/-- White space after comments: blanks are dropped, and all line breaks but one if `breaks` holds.
The results say whether a line break is left and whether the end of a section was dropped. -/
def afterComments : Bool → List Gap → List Gap × Bool × Bool
  | _, [] => ([], false, false)
  | breaks, g :: gs =>
    if g = .blank ∨ g = .tab then
      let (rest, wrote, dropped) := afterComments breaks gs
      (.ignore :: rest, wrote, dropped)
    else if g.isBreak then
      if breaks then
        let (rest, _, dropped) := afterComments false gs
        (g :: rest, true, dropped)
      else
        let (rest, wrote, dropped) := afterComments breaks gs
        (.ignore :: rest, wrote, dropped || g == .formfeed)
    else
      let (rest, wrote, dropped) := afterComments breaks gs
      (g :: rest, wrote, dropped)

/-- Writes the white space after comments, with a line break if `breaks` holds. -/
def writeAfter (breaks : Bool) : Print (Bool × Bool) := do
  let (gs, wrote, dropped) := afterComments breaks (← get).pending
  modify fun s => { s with pending := [] }
  writeGaps gs
  if breaks && !wrote then
    writeSpace '\n' 1
    return (true, dropped)
  else return (wrote, dropped)

/-! ## Comments -/

/-- Notes where a comment with a condition begins. -/
def noteCondition (text : List Char) : Print Unit :=
  modify fun s =>
    if (Condition.formulaIn? text).isSome then
      { s with formulas := s.formulas ++ [s.output.size] }
    else if (Condition.wordsIn? text).isSome then
      { s with wordLines := s.wordLines ++ [s.output.size] }
    else s

/-- Writes the lines of a comment after the first. -/
def writeLines : List (List Char) → Print Unit
  | [] => return
  | line :: lines => do
    writeSpace '\x0c' 1
    if !line.isEmpty then writeText (← get).place (Text.trimEnd line) true
    writeLines lines

/-- Writes a comment. One that numbers lines stays at the beginning of its line. -/
def writeComment (c : Comment) : Print Unit := do
  let place ← placeOf c.start
  let indent := (← get).indent
  if "//line ".toList.isPrefixOf c.text && (!place.isKnown || place.column == 1) then
    modify fun s => { s with indent := 0 }
  if c.endsLine then
    noteCondition c.text
    writeText place (Text.trimEnd c.text) true
  else match Text.splitBy (· == '\n') c.text with
    | [] => pure ()
    | first :: others =>
      let moved := place.column == 1 && decide (0 < indent)
      let others := if moved then others.map ("   ".toList ++ ·) else others
      match Margin.align (first :: others) with
      | [] => pure ()
      | first :: others =>
        if !first.isEmpty then writeText place (Text.trimEnd first) true
        writeLines others
  modify fun s => { s with indent }

/-- Writes comments one after the other, and gives the last of them. -/
def writeGroup (next : Place) (mark : Mark) : Option Comment → CommentGroup →
    Print (Option Comment)
  | last?, [] => return last?
  | last?, c :: cs => do
    writeBefore (← placeOf c.start) next last? mark
    writeComment c
    writeGroup next mark (some c) cs

/-- Whether comments document what begins with the token at the next place: they begin their line,
and the token begins the line after them. Neither a name nor a group of imports is documented. -/
def documents (next : Place) (group : CommentGroup) : Print Bool := do
  match group.head?, group.getLast? with
  | some first, some last =>
    let mark := (← get).last
    return mark != .name && mark != .sign "import" && (← placeOf first.start).column == 1 &&
      (← placeOf (last.stop + 1)) == next
  | _, _ => return false

/-- Writes the groups of comments before the next place. The results are the last comment, and
whether the comments that documented something turned out to be empty. -/
def writeComments (next : Place) (mark : Mark) : Option Comment → List CommentGroup →
    Print (Option Comment × Bool)
  | last?, [] => return (last?, false)
  | last?, group :: groups => do
    if !(← commentBefore next) then return (last?, false)
    let forward := modify fun s => { s with comments := groups }
    if ← documents next group then
      let new := Comment.documenting group
      if new.isEmpty then
        let start ← placeOf ((group.head?.map (·.start)).getD 0)
        writeBefore start next last? mark
        modify fun s => { s with place := next, lastPlace := next }
        forward
        return (last?, true)
      else
        let _ ← writeGroup next mark last? new
        match group.getLast? with
        | some last =>
          let place ← placeOf last.stop
          modify fun s => { s with place, lastPlace := place }
        | none => pure ()
        forward
        writeComments next mark group.getLast? groups
    else
      let last? ← writeGroup next mark last? group
      forward
      writeComments next mark last? groups

/-- Whether the token after a comment is a bracket that closes something other than what was opened
right before. -/
def closesEarlier (mark : Mark) : Print Bool := do
  let opened? := (← get).opened?
  return (mark == .sign ")" && opened? != some "(") || (mark == .sign "]" && opened? != some "[")

/-- Writes the comments before the next token and the white space around them. The results say
whether a line break was written and whether the end of a section was dropped. -/
def intersperse (next : Place) (mark : Mark) : Print (Bool × Bool) := do
  match ← writeComments next mark none (← get).comments with
  | (_, true) => writeAfter false
  | (none, _) => writeAfter false
  | (some last, _) =>
    let s ← get
    let mut breaks := false
    if !s.keepsClose && !last.endsLine && (← lineOf last.start) == next.line &&
        mark != .sign "," && !(← closesEarlier mark) then
      if s.pending.any Gap.isBreak && !s.keepsLine && s.level == 0 then breaks := true
      else writeSpace ' ' 1
    if last.endsLine || mark == .ending || (mark == .sign "\x7d" && !s.keepsLine) then
      breaks := true
    writeAfter breaks

/-- Writes the comments and the white space before the next token. -/
def flush (next : Place) (mark : Mark) : Print (Bool × Bool) := do
  if ← commentBefore next then intersperse next mark
  else
    writePending
    return (false, false)

/-! ## Tokens -/

/-- Whether two neighbours would be read as another token. -/
def combines : Mark → Option Char → Bool
  | .integer, some c => c == '.'
  | .sign "+", some c => c == '+'
  | .sign "-", some c => c == '-'
  | .sign "/", some c => c == '*'
  | .sign "<", some c => c == '-' || c == '<'
  | .sign "&", some c => c == '&' || c == '^'
  | _, _ => false

/-- Writes a token, where `closes` says whether the end of a line after it ends a statement. Blank
lines between comments and the token are kept. -/
def write (mark : Mark) (text : List Char) (quoted closes : Bool) : Print Unit := do
  modify fun s => { s with last := mark }
  let next := (← get).place
  let (wrote, dropped) ← flush next mark
  let s ← get
  let n := if s.closes then 0 else min (next.line - s.place.line) maxBreaks
  let n := if wrote ∧ n = maxBreaks then n - 1 else n
  if 0 < n then writeSpace (if dropped then '\x0c' else '\n') n.toNat
  modify fun s => match s.noting? with
    | some i => { s with notes := s.notes.setIfInBounds i s.line, noting? := none }
    | none => s
  writeText next text quoted
  modify fun s => { s with closes := closes && n ≤ 0 }

/-- The words and signs after which the end of a line ends a statement. -/
def closingMarks : List String :=
  ["break", "continue", "fallthrough", "return", "++", "--", ")", "]", "\x7d"]

/-- Writes a word or sign. -/
def sign (text : String) : Print Unit := do
  noteOpened
  if combines (← get).last text.toList.head? then
    modify fun s => { s with pending := [.blank] }
  write (.sign text) text.toList false (closingMarks.contains text)

def name (text : List Char) : Print Unit := do
  noteOpened
  write .name text false true

def literal (kind : Kind) (text : List Char) : Print Unit := do
  noteOpened
  write (if kind = .integer then .integer else .literal) text true true

end Print

end ModelCompiler.Code
