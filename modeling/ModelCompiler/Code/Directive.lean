import ModelCompiler.Files.Path

/-! # Comments that number lines

A comment can say that what follows it is on a certain line of another text. -/

namespace ModelCompiler.Code

/-- What a comment says about the numbers of lines. -/
inductive Numbering where
  /-- Nothing. -/
  | unchanged
  /-- It is malformed. -/
  | malformed (message : String)
  /-- The text, the line and the column of what follows. The text is the same as before if none is
  given, and the column is zero if it is unknown. -/
  | next (file? : Option String) (line column : Int)
deriving DecidableEq, Repr

namespace Numbering

/-- The number of a decimal text that fits into 64 bits. A number of more than 63 bits counts as a
negative one. -/
def word? (cs : List Char) : Option Int :=
  if cs.isEmpty || !cs.all (fun c => '0' ≤ c && c ≤ '9') then none
  else
    let n := cs.foldl (fun n c => n * 10 + (c.toNat - '0'.toNat)) 0
    if n < 0x8000000000000000 then some n
    else if n < 0x10000000000000000 then some ((n : Int) - 0x10000000000000000)
    else none

/-- What comes before and after the last colon. -/
def cutLast? (cs : List Char) : Option (List Char × List Char) :=
  (Text.cut? ':' cs.reverse).map fun (after, before) => (before.reverse, after.reverse)

/-- Whether a line or a column can have this number. -/
def isSound (n : Int) : Bool := n != 0 && n ≤ 0x40000000

def badLine (cs : List Char) : Numbering := .malformed ("invalid line number: " ++ String.ofList cs)

def badColumn (cs : List Char) : Numbering :=
  .malformed ("invalid column number: " ++ String.ofList cs)

/-- The path of a text, without detours. -/
def fileOf (cs : List Char) : String :=
  if cs.isEmpty then "" else Path.clean (String.ofList cs)

/-- What a comment says in the part after its mark: a name, a line and perhaps a column, with colons
between them. -/
def ofText (cs : List Char) : Numbering :=
  match cutLast? cs with
  | none => .unchanged
  | some (before, last) =>
    match word? last with
    | none => badLine last
    | some n =>
      match (cutLast? before).bind fun (name, middle) => (word? middle).map (name, middle, ·) with
      | some (name, middle, line) =>
        if !isSound n then badColumn last
        else if !isSound line then badLine middle
        else .next (if name.isEmpty then none else some (fileOf name)) line n
      | none => if isSound n then .next (some (fileOf before)) n 0 else badLine last

/-- What a comment says, where `first` tells whether it begins its line. -/
def ofComment (first : Bool) (text : List Char) : Numbering :=
  match text with
  | '/' :: '/' :: rest =>
    match Text.dropBeginning? "line ".toList (Text.dropEnding ['\r'] rest) with
    | some body => if first then ofText body else .unchanged
    | none => .unchanged
  | '/' :: '*' :: rest =>
    match Text.dropBeginning? "line ".toList rest with
    | some body => ofText (Text.dropEnding "*/".toList body)
    | none => .unchanged
  | _ => .unchanged

end Numbering

end ModelCompiler.Code
