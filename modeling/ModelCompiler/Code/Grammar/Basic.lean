import ModelCompiler.Code.Tokens
import ModelCompiler.Code.Tree

/-! # Reading tokens

Comments are read on the way. Those that may belong to a declaration are remembered: the comments on
the lines right before a token, and those at the end of the line of a token.

Reading goes on after a fault, since it is not the fault that was met first that matters but the one
that comes first in the text by the numbers of its lines. -/

namespace ModelCompiler.Code

/-- How far the tokens of a text have been read. -/
structure Reading where
  /-- The number of all tokens. -/
  count : Nat
  /-- The tokens after the current one. -/
  rest : List Token
  token : Token
  /-- How deep an expression is nested; below zero where a brace begins a block. -/
  level : Int := 0
  /-- How deep rules are nested. -/
  depth : Nat := 0
  /-- Whether an equals sign can only be meant for a comparison. -/
  compares : Bool := false
  /-- The comments on the lines right before the token. -/
  lead? : Option CommentGroup := none
  /-- The comments at the end of the line of the token before. -/
  line? : Option CommentGroup := none
  /-- All comments so far, the last of which come first. -/
  comments : List CommentGroup := []
  /-- The faults so far, the last of which comes first. -/
  faults : List Fault := []
  /-- Where reading last went on after a fault. -/
  resumed? : Option Nat := none
  /-- How often it went on there again. -/
  retries : Nat := 0

/-- The lines of a text, and how its comments number them. -/
structure Numbered where
  lines : Lines
  shifts : List Shift := []

/-- Reads tokens. Reading stops early only if there are too many faults. -/
abbrev Read := ReaderT Numbered (EStateM Unit Reading)

namespace Read

def stop {α : Type} : Read α := throw ()

/-! ## Comments -/

def commentOf (t : Token) : Comment := { start := t.start, text := t.text }

/-- The line on which a comment ends. -/
def lastLine (lineOf : Nat → Int) (t : Token) : Int :=
  lineOf t.start + if "/*".toList.isPrefixOf t.text then (t.text.count '\n' : Int) else 0

/-- The comments up to the first one before which more than `gap` lines end after `last`, the line
on which the last of them ends, and the comments that follow. -/
def takeGroup (lineOf : Nat → Int) (gap : Int) : Int → List Token →
    CommentGroup × Int × List Token
  | last, [] => ([], last, [])
  | last, t :: ts =>
    if lineOf t.start ≤ last + gap then
      let (group, last, rest) := takeGroup lineOf gap (lastLine lineOf t) ts
      (commentOf t :: group, last, rest)
    else ([], last, t :: ts)

/-- The groups of comments that no blank line divides, each with the line on which it ends. -/
def groupsOf (lineOf : Nat → Int) : Nat → List Token → List (CommentGroup × Int)
  | 0, _ => []
  | _, [] => []
  | fuel + 1, t :: ts =>
    let (group, last, rest) := takeGroup lineOf 1 (lineOf t.start) (t :: ts)
    (group, last) :: groupsOf lineOf fuel rest

/-- The comments between two tokens: those at the end of the line of the first, those right before
the second, and all of them in groups. -/
def sortComments (lineOf : Nat → Int) (line : Int) (next : Token) (comments : List Token) :
    Option CommentGroup × Option CommentGroup × List CommentGroup :=
  let (first?, comments, line?) :
      Option CommentGroup × List Token × Option CommentGroup := match comments with
    | [] => (none, [], none)
    | t :: ts =>
      if lineOf t.start = line then
        let (group, last, rest) := takeGroup lineOf 0 line (t :: ts)
        let following : Token := rest.head?.getD next
        let ends := decide (lineOf following.start ≠ last) || following.isMark ";" ||
          following.kind == .ending
        (some group, rest, if ends then some group else none)
      else (none, t :: ts, none)
  let groups := groupsOf lineOf comments.length comments
  let lead? := match groups.getLast? with
    | some (group, last) => if last + 1 = lineOf next.start then some group else none
    | none => none
  (line?, lead?, first?.toList ++ groups.map (·.1))

/-! ## Tokens -/

/-- Goes on to the token after the comments that come next; `line` is the line of the one before. -/
def advance (line : Int) : Read Unit := do
  let s ← get
  let lineOf := (← read).lines.lineOf
  let comments := s.rest.takeWhile (·.kind == .comment)
  match s.rest.dropWhile (·.kind == .comment) with
  | [] => return
  | next :: rest =>
    let (line?, lead?, groups) := sortComments lineOf line next comments
    set { s with token := next, rest, line?, lead?, comments := groups.reverse ++ s.comments }

/-- Goes on to the next token. -/
def skip : Read Unit := do
  let s ← get
  advance ((← read).lines.lineOf s.token.start)

def token : Read Token := return (← get).token

/-- The offset of the current token. -/
def here : Read Nat := return (← get).token.start

/-- Whether the current token is this word or sign. -/
def at? (mark : String) : Read Bool := return (← get).token.isMark mark

def atAny (marks : List String) : Read Bool := return (← get).token.isAnyMark marks

def atKind (kind : Kind) : Read Bool := return (← get).token.kind == kind

/-- Goes past a word or sign if it comes next. -/
def accept (mark : String) : Read Bool := do
  if ← at? mark then
    skip
    return true
  else return false

/-! ## Faults -/

/-- The most faults that are noted, less one. -/
def maxFaults : Nat := 10

/-- Notes a fault, unless the last one is on the same line. -/
def report (offset : Nat) (message : String) : Read Unit := do
  let source ← read
  let origin := source.lines.originOf source.shifts offset
  let faults := (← get).faults
  if faults.head?.any (·.origin.line == origin.line) then return
  if maxFaults < faults.length then stop
  modify fun s => { s with faults := { origin, message } :: faults }

/-- A token as a report of a fault names it. -/
def found (t : Token) : String :=
  if t.implied then "newline"
  else if t.kind = .name ∨ t.isLiteral then String.ofList t.text
  else if t.kind = .ending then "'EOF'"
  else "'" ++ String.ofList t.text ++ "'"

/-- Notes that something else should stand at an offset. -/
def reportMissing (offset : Nat) (what : String) : Read Unit := do
  let t ← token
  report offset ("expected " ++ what ++ if t.start = offset then ", found " ++ found t else "")

/-- How often reading may go on at one place without any progress. -/
def maxRetries : Nat := 10

/-- Goes on to the next of some words and signs after a fault. -/
def resumeAt (marks : List String) : Nat → Read Unit
  | 0 => stop
  | fuel + 1 => do
    let s ← get
    if s.token.kind = .ending then return
    if s.token.isAnyMark marks then
      if s.resumed? = some s.token.start ∧ s.retries < maxRetries then
        set { s with retries := s.retries + 1 }
        return
      if s.resumed?.all (· < s.token.start) then
        set { s with resumed? := some s.token.start, retries := 0 }
        return
    skip
    resumeAt marks fuel

/-- A bound for the number of items that follow. -/
def bound : Read Nat := return (maxRetries + 2) * ((← get).count + 2)

/-- Goes on to the next of some words and signs, because something else should stand here. -/
def recover (what : String) (marks : List String) : Read Unit := do
  reportMissing (← here) what
  resumeAt marks (← bound)

/-- The words that a statement begins with. -/
def statementWords : List String :=
  ["break", "const", "continue", "defer", "fallthrough", "for", "go", "goto", "if", "return",
   "select", "switch", "type", "var"]

/-- The words that a declaration begins with, apart from that of a function. -/
def declarationWords : List String := ["import", "const", "type", "var"]

/-- The signs that end an expression. -/
def expressionEnds : List String := [",", ":", ";", ")", "]", "\x7d"]

/-- An expression or a type in place of the one that should stand here. -/
def missing (what : String) (marks : List String) : Read Expr := do
  let start ← here
  recover what marks
  return { start, stop := ← here, form := .missing }

/-! ## Words and signs -/

/-- Goes past this word or sign, and gives its offset. -/
def expect (mark : String) : Read Nat := do
  let t ← token
  if !t.isMark mark then reportMissing t.start ("'" ++ mark ++ "'")
  skip
  return t.start

/-- Goes past the bracket that closes something. -/
def expectClosing (mark what : String) : Read Nat := do
  let t ← token
  if t.isMark ";" && t.implied then
    report t.start ("missing ',' before newline in " ++ what)
    skip
  expect mark

/-- Goes past the semicolon at the end of a statement, which may be missing before a closing
bracket, and gives the comments at the end of the line. -/
def expectEnd : Read (Option CommentGroup) := do
  let s ← get
  if s.token.isAnyMark [")", "\x7d"] then return none
  else if s.token.isMark ";" then
    skip
    if s.token.implied then return s.line? else return (← get).line?
  else if s.token.isMark "," then
    reportMissing s.token.start "';'"
    skip
    return s.line?
  else
    recover "';'" statementWords
    return none

/-- Whether an item follows another in a list, which goes on after a comma. A comma that is missing
is added. -/
def atComma (closing what : String) : Read Bool := do
  let t ← token
  if t.isMark "," then return true
  else if t.isMark closing then return false
  else
    let place := if t.isMark ";" && t.implied then " before newline" else ""
    report t.start ("missing ','" ++ place ++ " in " ++ what)
    return true

/-! ## Contexts -/

/-- The most rules that are nested. -/
def maxDepth : Nat := 100000

/-- Goes one level deeper. -/
def enter : Read Unit := do
  let depth := (← get).depth + 1
  modify fun s => { s with depth }
  if maxDepth < depth then
    report (← here) "exceeded max nesting depth"
    stop

/-- Reads something, and comes back to the level where it began. -/
def leaving {α : Type} (r : Read α) : Read α := do
  let depth := (← get).depth
  let a ← r
  modify fun s => { s with depth }
  return a

/-- Reads something one level deeper. -/
def inside {α : Type} (r : Read α) : Read α := leaving do
  enter
  r

/-- Reads an expression in which braces mean what they mean inside brackets. -/
def nested {α : Type} (r : Read α) : Read α := do
  modify fun s => { s with level := s.level + 1 }
  let a ← r
  modify fun s => { s with level := s.level - 1 }
  return a

/-- Reads the head of a statement, in which a brace begins the body. -/
def inHead {α : Type} (r : Read α) : Read α := do
  let level := (← get).level
  modify fun s => { s with level := -1 }
  let a ← r
  modify fun s => { s with level }
  return a

/-- Reads expressions, where `compares` says what an equals sign is meant for. -/
def comparing {α : Type} (compares : Bool) (r : Read α) : Read α := do
  let before := (← get).compares
  modify fun s => { s with compares }
  let a ← r
  modify fun s => { s with compares := before }
  return a

/-! ## Lists -/

/-- Reads items until none is left. -/
def repeatWhile {α : Type} (more : Read Bool) (item : Read α) : Nat → Read (List α)
  | 0 => stop
  | fuel + 1 => do
    if ← more then
      let a ← item
      let as ← repeatWhile more item fuel
      return a :: as
    else return []

def many {α : Type} (more : Read Bool) (item : Read α) : Read (List α) := do
  repeatWhile more item (← bound)

/-- Items with commas between them, the last of which the closing bracket follows, perhaps after a
comma. -/
def listUntil {α : Type} (closing what : String) (item : Read α) : Nat → Read (List α)
  | 0 => stop
  | fuel + 1 => do
    if (← at? closing) || (← atKind .ending) then return []
    let a ← item
    if ← atComma closing what then
      skip
      let as ← listUntil closing what item fuel
      return a :: as
    else return [a]

/-- Items with commas between them. -/
def commaList {α : Type} (item : Read α) : Read (List α) := do
  let first ← item
  let others ← many (accept ",") item
  return first :: others

/-! ## Names -/

def name : Read Name := do
  let t ← token
  if t.kind ≠ .name then reportMissing t.start "'IDENT'"
  skip
  return { start := t.start, text := if t.kind = .name then t.text else ['_'] }

def names : Read (List Name) := commaList name

end Read

end ModelCompiler.Code
