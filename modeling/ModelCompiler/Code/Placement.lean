import ModelCompiler.Code.Align
import ModelCompiler.Code.Condition

/-! # The place of conditions

Comments with a condition are brought together before the package clause, in both forms if the
second one is used. -/

namespace ModelCompiler.Code

/-- A text and the places in it where comments with a condition begin. -/
structure Placement where
  output : Array Sign
  formulas : List Nat
  wordLines : List Nat

namespace Placement

def signAt (p : Placement) (i : Nat) : Option Sign := p.output[i]?

/-- The first place from `i` on where `q` does not hold. -/
def skipWhile (p : Placement) (q : Sign → Bool) : Nat → Nat → Nat
  | 0, i => i
  | fuel + 1, i => if (p.signAt i).any q then skipWhile p q fuel (i + 1) else i

def isSpace (s : Sign) : Bool := s == .char ' ' || s == .char '\t'

/-- Whether a comment up to the end of its line begins here. -/
def atComment (p : Placement) (i : Nat) : Bool :=
  p.signAt i == some .quote && p.signAt (i + 1) == some (.char '/') &&
    p.signAt (i + 2) == some (.char '/') && i + 3 < p.output.size

/-- The place after the last blank line before which there are only comments; `place` is the last
one so far. -/
def lastBlank (p : Placement) : Nat → Nat → Nat → Nat
  | 0, _, place => place
  | fuel + 1, i, place =>
    let size := p.output.size
    let start := p.skipWhile isSpace size i
    let comment := p.atComment start
    let stop := if comment then p.skipWhile (!·.isBreak) size start else start
    if (p.signAt stop).any Sign.isBreak then
      p.lastBlank fuel (stop + 1) (if comment then place else stop + 1)
    else place

/-- Where the conditions go: after that blank line, or where the first of them is if that is
earlier. -/
def target (p : Placement) : Nat :=
  let place := p.lastBlank (p.output.size + 1) 0 0
  match p.formulas.head?, p.wordLines.head? with
  | some i, some j => if i < place then i else if j < place then j else place
  | some i, none => min i place
  | none, some j => min j place
  | none, none => place

/-- The rest of a line with its end. -/
def lineAt (p : Placement) (i : Nat) : List Sign :=
  let stop := p.skipWhile (!·.isBreak) p.output.size i
  (p.output.extract i (stop + 1)).toList

/-- The text of a comment. -/
def textAt (p : Placement) (i : Nat) : List Char :=
  let i := if p.signAt i = some .quote then i + 1 else i
  let stop := p.skipWhile (fun s => s != .quote && !s.isBreak) p.output.size i
  (p.output.extract i stop).toList.filterMap fun
    | .char c => some c
    | .quote => none

/-- The condition that holds, if it is clear which one that is. -/
def condition? (p : Placement) : Option Condition :=
  match p.formulas with
  | [] => do
    let cs ← p.wordLines.mapM fun i => Condition.ofComment? (p.textAt i)
    match cs with
    | [] => none
    | c :: cs => some (cs.foldl .and c)
  | [i] => Condition.ofComment? (p.textAt i)
  | _ => none

/-- A comment on a line of its own. -/
def commentLine (text : List Char) : List Sign := Sign.quoted text ++ [.char '\n']

/-- What is written for a condition that has no second form. -/
def tooComplex : List Char :=
  "// +build error: expression too complex for // +build lines".toList

/-- The comments with the conditions. -/
def block (p : Placement) : List Sign :=
  (match p.condition? with
  | none => (p.formulas ++ p.wordLines).flatMap p.lineAt
  | some c =>
    let others := if p.wordLines.isEmpty then [] else c.wordLines?.getD [tooComplex]
    (("//go:build ".toList ++ c.formulaText) :: others).flatMap commentLine) ++ [.char '\n']

/-- Whether a text is empty or ends with a blank line. -/
def endsBlank (signs : List Sign) : Bool :=
  match signs.reverse with
  | [] => true
  | a :: b :: _ => a.isBreak && b.isBreak
  | _ => false

/-- Adds lines, but no second blank line. -/
def addLines (before lines : List Sign) : List Sign :=
  match lines with
  | [] => before
  | s :: rest => if s.isBreak && endsBlank before then before ++ rest else before ++ lines

/-- What follows a place, without the lines that begin at the given ones. -/
def rest (p : Placement) : Nat → List Nat → List Sign → List Sign
  | start, [], before => addLines before (p.output.extract start p.output.size).toList
  | start, stop :: stops, before =>
    if stop < start then p.rest start stops before
    else
      p.rest (stop + (p.lineAt stop).length) stops
        (addLines before (p.output.extract start stop).toList)

/-- The text with its conditions in place. -/
def placed (p : Placement) : List Sign :=
  if p.formulas.isEmpty && p.wordLines.isEmpty then p.output.toList
  else
    let target := p.target
    let stops := (p.formulas ++ p.wordLines).mergeSort (· ≤ ·)
    let after := p.rest target stops []
    let after := if !after.isEmpty && endsBlank after then after.dropLast else after
    (p.output.extract 0 target).toList ++ p.block ++ after

end Placement

end ModelCompiler.Code
