import ModelCompiler.Code.Layout.Declarations
import ModelCompiler.Sorting

/-! # Imports in order

Imports on successive lines are sorted by path, name and comment, and those that repeat another are
dropped. They take the places of those that were there before, and their comments follow them. -/

namespace ModelCompiler.Code

/-- An import in a group. -/
structure Import where
  name? : Option Name
  path : Expr
  comment? : Option CommentGroup

namespace Import

def ofSpec? : Spec → Option Import
  | .imported name? path _ comment? => some { name?, path, comment? }
  | _ => none

def start (i : Import) : Nat := (i.name?.map (·.start)).getD i.path.start

/-- The bytes of the path. -/
def pathBytes (i : Import) : List UInt8 := match i.path.form with
  | .literal _ text => (literalBytes? text).getD []
  | _ => []

def nameBytes (i : Import) : List UInt8 := match i.name? with
  | some n => n.text.flatMap Text.utf8Bytes
  | none => []

/-- The text of a comment without its marks. -/
def bodyOf (c : Comment) : List (List Char) :=
  if c.endsLine then
    let body := c.text.drop 2
    if Comment.isDirective body then []
    else [(Text.dropBeginning? [' '] body).getD body]
  else Text.splitBy (· == '\n') ((c.text.drop 2).take (c.text.length - 4))

/-- A line without the spaces at its end. -/
def withoutEnd (line : List Char) : List Char :=
  (line.reverse.dropWhile fun c => c == ' ' || c == '\t' || c == '\n' || c == '\r').reverse

/-- The lines of comments without spaces at their ends, and without blank lines at the two ends and
next to each other. -/
def commentLines (group : CommentGroup) : List (List Char) :=
  let lines := (group.flatMap bodyOf).map withoutEnd
  let step := fun (kept : List (List Char)) line =>
    if line.isEmpty && (kept.head?.all List.isEmpty) then kept else line :: kept
  ((lines.foldl step []).dropWhile List.isEmpty).reverse

def commentBytes (i : Import) : List UInt8 := match i.comment? with
  | some group => (commentLines group).flatMap fun line => (line ++ ['\n']).flatMap Text.utf8Bytes
  | none => []

/-- Whether an import comes before another one. -/
def isBefore (i j : Import) : Bool :=
  let key := fun i => [i.pathBytes, i.nameBytes, i.commentBytes].map (·.map UInt8.toNat)
  (key i).lex (key j) fun a b => a.lex b Nat.blt

/-- Whether an import can be dropped because of the next one. -/
def isRepeatedBy (i j : Import) : Bool :=
  i.pathBytes == j.pathBytes && i.nameBytes == j.nameBytes && i.comment?.isNone

end Import

/-- The lines and the comments of a text, which sorting changes. -/
structure Order where
  lines : Lines
  comments : List CommentGroup

namespace Order

/-! ## Comments -/

/-- Where the comments of a group begin and end. -/
def startOf (group : CommentGroup) : Nat := (group.head?.map (·.start)).getD 0

def stopOf (group : CommentGroup) : Nat := (group.getLast?.map (·.stop)).getD 0

/-- A group of comments with the number of the import that it belongs to, and whether it stands
before that. -/
structure Owned where
  group : CommentGroup
  owner : Nat
  left : Bool

/-- Gives each group of comments to an import, from the number `i` on. -/
def assign (lines : Lines) (spans : Array (Nat × Nat)) : Nat → List CommentGroup → List Owned
  | _, [] => []
  | i, group :: groups =>
    let place := startOf group
    let start := fun i => (spans[i]?.map (·.1)).getD 0
    let passed := (List.range spans.size).countP fun j => i < j && start j ≤ place
    let i := i + passed
    if i = 0 ∧ place < start 0 then
      { group, owner := i, left := true } :: assign lines spans i groups
    else if i + 1 < spans.size ∧ lines.lineOf (start i) + 1 = lines.lineOf place then
      { group, owner := i + 1, left := true } :: assign lines spans (i + 1) groups
    else { group, owner := i, left := false } :: assign lines spans i groups

/-- Comments that follow an import to its new place. -/
def Owned.moved (c : Owned) (span : Nat × Nat) : CommentGroup :=
  c.group.map fun r => { r with start := if c.left then span.1 - 1 else span.2 }

/-! ## Runs -/

/-- Drops imports that repeat the next one. The line of a dropped import is joined with the one
after it, unless the closing parenthesis is on the same line. -/
def dropRepeated (closing : Nat) (lines : Lines) :
    List (Import × Nat) → List (Import × Nat) × Lines
  | [] => ([], lines)
  | [i] => ([i], lines)
  | i :: j :: rest =>
    if i.1.isRepeatedBy j.1 then
      let line := lines.lineOf i.1.start
      let lines := if line = lines.lineOf closing then lines else lines.merge line.toNat
      dropRepeated closing lines (j :: rest)
    else
      let (kept, lines) := dropRepeated closing lines (j :: rest)
      (i :: kept, lines)

/-- An import at a new place. -/
def moved (i : Import) (span : Nat × Nat) : Spec :=
  .imported (i.name?.map fun n => { n with start := span.1 }) { i.path with start := span.1 }
    (some span.2) i.comment?

/-- The end of the lines on which imports stand. -/
def endOf (lines : Lines) (stop : Nat) : Nat :=
  (lines.starts[(lines.lineOf stop).toNat]?).getD stop

/-- Sorts a run of imports, where `closing` is the place of the closing parenthesis. -/
def sortRun (o : Order) (closing : Nat) (run : List Spec) : List Spec × Order :=
  let imports := run.filterMap Import.ofSpec?
  if imports.length ≤ 1 then (run, o)
  else
    let spans := (imports.map fun i => (i.start, i.path.stop)).toArray
    let first := (spans[0]?.map (·.1)).getD 0
    let top := (o.lines.starts[o.lines.indexOf first]?).getD 0
    let bottom := endOf o.lines ((spans.back?.map (·.2)).getD 0)
    let before := o.comments.takeWhile fun g => stopOf g < bottom
    let after := o.comments.dropWhile fun g => stopOf g < bottom
    let (own, other) := before.partition fun g => top ≤ startOf g
    let owned := assign o.lines spans 0 own
    let sorted := Sorting.sort (fun i j => i.1.isBefore j.1) imports.zipIdx
    let (kept, lines) := dropRepeated closing o.lines sorted
    let placed := kept.zip spans.toList
    let comments := owned.map fun c =>
      match placed.find? (·.1.2 == c.owner) with
      | some (_, span) => c.moved span
      | none => c.group
    let comments := Sorting.sort (fun g h => startOf g < startOf h) comments
    (placed.map fun (i, span) => moved i.1 span, { lines, comments := other ++ comments ++ after })

def stopOfSpec : Spec → Nat
  | .imported _ path stop? _ => stop?.getD path.stop
  | s => s.start

/-- The specs that follow one on successive lines, and the others. -/
def run (lines : Lines) : Spec → List Spec → List Spec × List Spec
  | _, [] => ([], [])
  | s, t :: rest =>
    if lines.lineOf t.start ≤ lines.lineOf (stopOfSpec s) + 1 then
      let (following, others) := run lines t rest
      (t :: following, others)
    else ([], t :: rest)

/-- Sorts one run after the other. Sorting a run may join it with the lines after it. -/
def sortRuns (o : Order) (closing : Nat) : Nat → List Spec → List Spec × Order
  | 0, specs => (specs, o)
  | _, [] => ([], o)
  | fuel + 1, s :: rest =>
    let (following, others) := run o.lines s rest
    let (sorted, o) := o.sortRun closing (s :: following)
    let (others, o) := o.sortRuns closing fuel others
    (sorted ++ others, o)

/-- Joins the blank lines before a closing parenthesis. -/
def closeUp (last closing : Nat) : Nat → Lines → Lines
  | 0, lines => lines
  | fuel + 1, lines =>
    let line := lines.lineOf closing
    if lines.lineOf last + 1 < line then closeUp last closing fuel (lines.merge (line - 1).toNat)
    else lines

/-- Sorts the imports at the beginning of some declarations. -/
def sortImports (o : Order) : List Decl → List Decl × Order
  | [] => ([], o)
  | .group start "import" (some opening) specs (some closing) documented :: rest =>
    let (specs, o) := o.sortRuns closing specs.length specs
    let lines := match specs.getLast? with
      | some last => closeUp last.start closing o.lines.starts.size o.lines
      | none => o.lines
    let (rest, o) := sortImports { o with lines } rest
    (.group start "import" (some opening) specs (some closing) documented :: rest, o)
  | .group start "import" none specs closing? documented :: rest =>
    let (rest, o) := o.sortImports rest
    (.group start "import" none specs closing? documented :: rest, o)
  | d :: rest => (d :: rest, o)

end Order

/-- A text with its imports in order, and its lines. -/
def Program.sorted (p : Program) (lines : Lines) : Program × Lines :=
  let o : Order := { lines, comments := p.comments }
  let (declarations, o) := o.sortImports p.declarations
  ({ p with declarations, comments := o.comments }, o.lines)

end ModelCompiler.Code
