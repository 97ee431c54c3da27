import ModelCompiler.Code.Tokens
import ModelCompiler.Text.Blank

/-! # Conditions on which a file is built

A condition is written in a comment, in one of two forms. In the first it is a formula over tags.
In the second, lines are joined by conjunction, words of a line by disjunction and what stands
between the commas of a word by conjunction again. -/

namespace ModelCompiler.Code

inductive Condition where
  | tag (name : List Char)
  | not (c : Condition)
  | and (c d : Condition)
  | or (c d : Condition)
deriving DecidableEq, Repr

namespace Condition

/-! ## Comments that hold a condition -/

/-- What follows a mark that stands for itself or before a blank, without the blanks around it. -/
def afterMark? (mark : List Char) (text : List Char) : Option (List Char) := do
  let rest ← Text.dropBeginning? mark text
  if rest.isEmpty || rest.head?.any Text.isBlank then some (Text.trim rest) else none

/-- The formula in a comment of the first form. -/
def formulaIn? (comment : List Char) : Option (List Char) :=
  if comment.contains '\n' then none
  else afterMark? "//go:build".toList (Text.trimEnd comment)

/-- The words in a comment of the second form. -/
def wordsIn? (comment : List Char) : Option (List Char) := do
  if comment.contains '\n' then none
  let rest ← Text.dropBeginning? "//".toList comment
  afterMark? "+build".toList (Text.trim rest)

/-! ## Formulas -/

def isTagChar (c : Char) : Bool :=
  Text.isLetter c || Text.isDigit c || c == '_' || c == '.'

inductive Symbol where
  | tag (name : List Char)
  | open_
  | close
  | not
  | and
  | or
  | unknown
deriving DecidableEq, Repr

/-- The symbols of a formula up to the first unknown one. -/
def symbols : Nat → List Char → List Symbol
  | _, [] => []
  | 0, _ => [.unknown]
  | fuel + 1, c :: cs =>
    if c = ' ' ∨ c = '\t' then symbols fuel cs
    else if c = '(' then .open_ :: symbols fuel cs
    else if c = ')' then .close :: symbols fuel cs
    else if c = '!' then .not :: symbols fuel cs
    else match c, cs with
      | '&', '&' :: cs => .and :: symbols fuel cs
      | '|', '|' :: cs => .or :: symbols fuel cs
      | c, cs =>
        if isTagChar c then
          .tag (c :: cs.takeWhile isTagChar) :: symbols fuel (cs.dropWhile isTagChar)
        else [.unknown]

/-- The most operands that a formula may have. -/
def maxOperands : Nat := 1000

/-- What a rule reads: a condition, the rest, and the number of operands so far. -/
abbrev Reader := Nat → List Symbol → Option (Condition × List Symbol × Nat)

/-- Operands with an operator between them. No unknown symbol follows them. -/
def chain (symbol : Symbol) (join : Condition → Condition → Condition) (operand : Reader) :
    Nat → Condition → Reader
  | 0, _, _, _ => none
  | fuel + 1, left, count, symbols => match symbols with
    | .unknown :: _ => none
    | s :: rest =>
      if s = symbol then do
        let (right, rest, count) ← operand count rest
        chain symbol join operand fuel (join left right) count rest
      else some (left, symbols, count)
    | [] => some (left, [], count)

/-- A tag or a formula in parentheses. -/
def atom (formula : Reader) : Reader
  | count, .tag name :: rest => some (.tag name, rest, count)
  | count, .open_ :: rest => do
    let (c, rest, count) ← formula count rest
    match rest with
    | .close :: rest => some (c, rest, count)
    | _ => none
  | _, _ => none

/-- A negation or what can be negated. -/
def operand (formula : Reader) : Reader
  | count, symbols =>
    if maxOperands < count + 1 then none
    else match symbols with
      | .not :: rest => do
        let (c, rest, count) ← atom formula (count + 1) rest
        some (.not c, rest, count)
      | symbols => atom formula (count + 1) symbols

/-- A disjunction of conjunctions, nested at most as deep as given. -/
def formula : Nat → Reader
  | 0, _, _ => none
  | depth + 1, count, symbols => do
    let conjunction : Reader := fun count symbols => do
      let (c, rest, count) ← operand (formula depth) count symbols
      chain .and .and (operand (formula depth)) (rest.length + 1) c count rest
    let (c, rest, count) ← conjunction count symbols
    chain .or .or conjunction (rest.length + 1) c count rest

/-- The condition of a formula. What stands after it, from a symbol on that cannot continue it, does
not count. -/
def ofFormula? (text : List Char) : Option Condition :=
  let symbols := symbols (text.length + 1) text
  (formula (symbols.length + 1) 0 symbols).map (·.1)

/-! ## Words -/

/-- A tag that no build has. -/
def never : Condition := .tag "ignore".toList

def isTag (cs : List Char) : Bool := !cs.isEmpty && cs.all isTagChar

/-- What stands between the commas of a word. -/
def ofLiteral (cs : List Char) : Condition :=
  match cs with
  | '!' :: '!' :: _ => never
  | ['!'] => never
  | '!' :: rest => .not (if isTag rest then .tag rest else never)
  | cs => if isTag cs then .tag cs else never

/-- Joins conditions, the first of which comes first. -/
def joined (join : Condition → Condition → Condition) : List Condition → Condition
  | [] => never
  | c :: cs => cs.foldl join c

/-- The most joints that the words of a line may have. -/
def maxJoints : Nat := 100

/-- The condition of the words of a line. -/
def ofWords? (text : List Char) : Option Condition :=
  let clauses := (Text.words text).map (Text.splitBy (· == ','))
  if maxJoints < clauses.flatten.length - 1 then none
  else some (joined .or (clauses.map fun lits => joined .and (lits.map ofLiteral)))

/-- The condition in a comment. -/
def ofComment? (comment : List Char) : Option Condition :=
  match formulaIn? comment with
  | some text => ofFormula? text
  | none => (wordsIn? comment).bind ofWords?

/-! ## The text of a condition -/

def parenthesized (cs : List Char) : List Char := '(' :: cs ++ [')']

/-- The formula of a condition; a disjunction in a conjunction, and a conjunction in a disjunction,
stand in parentheses. -/
def formulaText : Condition → List Char
  | .tag name => name
  | .not c =>
    let text := c.formulaText
    '!' :: match c with
      | .and _ _ | .or _ _ => parenthesized text
      | _ => text
  | .and c d => conjunct c c.formulaText ++ " && ".toList ++ conjunct d d.formulaText
  | .or c d => disjunct c c.formulaText ++ " || ".toList ++ disjunct d d.formulaText
where
  conjunct (c : Condition) (text : List Char) : List Char := match c with
    | .or _ _ => parenthesized text
    | _ => text
  disjunct (c : Condition) (text : List Char) : List Char := match c with
    | .and _ _ => parenthesized text
    | _ => text

/-- The condition, or what negates it, with negations of tags only. -/
def pushNot : Condition → Bool → Condition
  | .tag name, negated => if negated then .not (.tag name) else .tag name
  | .not c, negated => c.pushNot !negated
  | .and c d, negated =>
    if negated then .or (c.pushNot negated) (d.pushNot negated)
    else .and (c.pushNot negated) (d.pushNot negated)
  | .or c d, negated =>
    if negated then .and (c.pushNot negated) (d.pushNot negated)
    else .or (c.pushNot negated) (d.pushNot negated)

def conjuncts : Condition → List Condition
  | .and c d => c.conjuncts ++ d.conjuncts
  | c => [c]

def disjuncts : Condition → List Condition
  | .or c d => c.disjuncts ++ d.disjuncts
  | c => [c]

def isLiteral : Condition → Bool
  | .tag _ | .not _ => true
  | _ => false

/-- A conjunction of disjunctions of conjunctions of literals, if the condition has that form once
negations stand before tags only. -/
def clauses? (c : Condition) : Option (List (List (List Condition))) :=
  (c.pushNot false).conjuncts.mapM fun or => or.disjuncts.mapM fun and =>
    if and.conjuncts.all isLiteral then some and.conjuncts else none

/-- The lines of the second form for a condition, if there are any. One line is enough where there
is no disjunction. -/
def wordLines? (c : Condition) : Option (List (List Char)) := do
  let clauses ← c.clauses?
  let clauses := if clauses.all (·.length ≤ 1) then [[clauses.flatten.flatten]] else clauses
  some <| clauses.map fun or => "// +build".toList ++ or.flatMap fun and =>
    ' ' :: [','].intercalate (and.map formulaText)

end Condition

end ModelCompiler.Code
