/-! # Tokens -/

namespace ModelCompiler.Code

inductive Kind where
  | comment
  | name
  | integer
  | decimal
  | imaginary
  | character
  | text
  /-- A word of the language. -/
  | word
  /-- An operator or a mark of punctuation. -/
  | sign
  /-- The end of the text. -/
  | ending
deriving DecidableEq, Repr, Inhabited

/-- A token from the offset `start` to the offset `stop`. -/
structure Token where
  kind : Kind
  text : List Char
  start : Nat
  stop : Nat
  /-- Whether it is a semicolon that stands for the end of a line. -/
  implied : Bool := false
deriving DecidableEq, Repr, Inhabited

namespace Token

/-- Whether a token is this word or sign. -/
def isMark (t : Token) (mark : String) : Bool :=
  (t.kind == .word || t.kind == .sign) && t.text == mark.toList

def isAnyMark (t : Token) (marks : List String) : Bool := marks.any t.isMark

def isLiteral (t : Token) : Bool :=
  [Kind.integer, .decimal, .imaginary, .character, .text].contains t.kind

end Token

def words : List String :=
  ["break", "case", "chan", "const", "continue", "default", "defer", "else", "fallthrough", "for",
   "func", "go", "goto", "if", "import", "interface", "map", "package", "range", "return", "select",
   "struct", "switch", "type", "var"]

/-- The signs; a longer one comes before those that it begins with. -/
def signs : List String :=
  ["<<=", ">>=", "&^=", "...", "&&", "||", "<-", "++", "--", "==", "!=", "<=", ">=", ":=", "+=",
   "-=", "*=", "/=", "%=", "&=", "|=", "^=", "<<", ">>", "&^", "+", "-", "*", "/", "%", "&", "|",
   "^", "<", ">", "=", "!", "(", ")", "[", "]", "\x7b", "\x7d", ",", ";", ".", ":", "~"]

/-- The words and signs after which the end of a line ends a statement. -/
def closers : List String :=
  ["break", "continue", "fallthrough", "return", ")", "]", "\x7d", "++", "--"]

/-- Whether the end of a line after a token ends a statement. -/
def Token.closes (t : Token) : Bool :=
  t.kind == .name || t.isLiteral || t.isAnyMark closers

/-- How tightly a binary operator binds, from one to five, and zero for all else. -/
def precedence (op : String) : Nat :=
  if op = "||" then 1
  else if op = "&&" then 2
  else if ["==", "!=", "<", "<=", ">", ">="].contains op then 3
  else if ["+", "-", "|", "^"].contains op then 4
  else if ["*", "/", "%", "<<", ">>", "&", "&^"].contains op then 5
  else 0

/-- How tightly a unary operator binds. -/
def unaryPrecedence : Nat := 6

/-- How tightly what follows an operand binds. -/
def operandPrecedence : Nat := 7

end ModelCompiler.Code
