import ModelCompiler.Yaml.Number
import ModelCompiler.Yaml.Timestamp

/-! # What the text of a plain scalar means -/

namespace ModelCompiler.Yaml

inductive Meaning where
  | null
  | boolean
  /-- A whole number of 64 bits, and whether it fits a signed word. -/
  | integer (signed : Bool)
  | float
  | timestamp
  | text
deriving DecidableEq, Repr

/-- The ways to write null. -/
def nulls : List String := ["", "~", "null", "Null", "NULL"]

def booleans : List String := ["true", "True", "TRUE", "false", "False", "FALSE"]

def specialFloats : List String :=
  [".nan", ".NaN", ".NAN", ".inf", ".Inf", ".INF", "+.inf", "+.Inf", "+.INF", "-.inf", "-.Inf",
   "-.INF"]

/-- Whether a text after a mark for its base is a whole number; a sign stands before the mark or,
if the mark has none before it, after it. -/
def markedInteger? (mark : String) (base : Nat) (cs : List Char) : Option Meaning :=
  match Text.dropBeginning? mark.toList cs with
  | some rest =>
    if isSignedWord (number? base) rest then some (.integer true)
    else if isUnsignedWord (number? base) rest then some (.integer false)
    else none
  | none => match Text.dropBeginning? ('-' :: mark.toList) cs with
    | some rest =>
      if isSignedWord (number? base) ('-' :: rest) then some (.integer true) else none
    | none => none

/-- What a text means that begins with a digit or a sign. -/
def numberMeaning (cs : List Char) : Meaning :=
  let plain := cs.filter (· != '_')
  if isSignedWord basedNumber? plain then .integer true
  else if isUnsignedWord basedNumber? plain then .integer false
  else if isFloat plain then .float
  else match markedInteger? "0b" 2 plain with
    | some m => m
    | none => (markedInteger? "0o" 8 plain).getD .text

/-- What a text means. Dates are recognized only if `dates` says so. -/
def meaningOf (dates : Bool) (text : String) : Meaning :=
  if nulls.contains text then .null
  else if booleans.contains text then .boolean
  else if specialFloats.contains text then .float
  else match text.toList with
    | [] => .null
    | c :: cs =>
      if c = '.' then
        if underscoresDivide false (c :: cs) ∧ isFloat ((c :: cs).filter (· != '_')) then .float
        else .text
      else if c.isDigit ∨ c = '+' ∨ c = '-' then
        if dates ∧ isTimestamp (c :: cs) then .timestamp else numberMeaning (c :: cs)
      else .text

/-- Whether a text may carry a tag of the format that says what it means. -/
def fits (tag text : String) : Bool :=
  match tag, meaningOf (tag == "!!timestamp") text with
  | "!!null", m => m == .null
  | "!!bool", m => m == .boolean
  | "!!int", .integer _ => true
  | "!!float", .integer signed => signed
  | "!!float", m => m == .float
  | "!!timestamp", m => m == .timestamp
  | _, _ => false

/-- The tags that say what a text means. -/
def meaningTags : List String := ["!!null", "!!bool", "!!int", "!!float", "!!timestamp"]

end ModelCompiler.Yaml
