import ModelCompiler.Text.Case
import ModelCompiler.Text.Letter
import ModelCompiler.Text.Pieces
import ModelCompiler.Text.Punctuation

/-! # Prose: names in brackets that refer to a package -/

namespace ModelCompiler.Code.Prose

/-! ## Names -/

/-- The length of the identifier at the beginning of a text. -/
def nameLength (cs : List Char) : Nat :=
  let isPart := fun c : Char =>
    if c.toNat < 0x80 then c.isAlphanum || c == '_' else Text.isLetter c
  if cs.head?.any Char.isDigit then 0 else (cs.takeWhile isPart).length

/-- Whether a text is an identifier that begins with an upper-case letter. -/
def isExported (cs : List Char) : Bool :=
  !cs.isEmpty && nameLength cs == cs.length && cs.head?.any Text.isUpper

/-- What stands before the name of something exported and its dot, if a text ends with such a
name. -/
def beforeExported? (cs : List Char) : Option (List Char) :=
  let name := (cs.reverse.takeWhile (· != '.')).reverse
  if isExported name then some (cs.take (cs.length - name.length - 1)) else none

/-! ## Packages -/

/-- The packages that are known by one word. -/
def knownPackages : List String :=
  ["bufio", "bytes", "cmp", "context", "crypto", "embed", "encoding", "errors", "expvar", "flag",
   "fmt", "hash", "html", "image", "io", "iter", "log", "maps", "math", "mime", "net", "os", "path",
   "plugin", "reflect", "regexp", "runtime", "slices", "sort", "strconv", "strings", "structs",
   "sync", "syscall", "testing", "time", "unicode", "unique", "unsafe", "uuid",
   "weak"]

/-- Whether a text can stand between two slashes of the path of a package. -/
def isPathElement (cs : List Char) : Bool :=
  !cs.isEmpty && cs.head? != some '.' && cs.getLast? != some '.' &&
    cs.all fun c => c.isAlphanum || "-.~_+".toList.contains c

/-- Whether a text is the path of a package: it has slashes, or it is a word that is known. -/
def isPackage (cs : List Char) : Bool :=
  if cs.contains '/' then cs.head? != some '-' && (Text.splitBy (· == '/') cs).all isPathElement
  else knownPackages.contains (String.ofList cs)

/-! ## References -/

/-- Whether a character may stand next to the brackets of a reference. -/
def isBoundary (c : Char) : Bool :=
  c == ' ' || c == '\t' || c == '\n' || Text.isPunctuation c

/-- Whether a text in brackets between two characters refers to a package, to something in one, or
to a method of a type in one. -/
def isReference (before? after? : Option Char) (cs : List Char) : Bool :=
  let cs := (Text.dropBeginning? ['*'] cs).getD cs
  let path := match beforeExported? cs with
    | some rest => (beforeExported? rest).getD rest
    | none => cs
  before?.all isBoundary && after?.all isBoundary && isPackage path

end ModelCompiler.Code.Prose
