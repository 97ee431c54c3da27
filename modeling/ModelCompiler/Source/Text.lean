import ModelCompiler.Source.File
import ModelCompiler.Text.Pieces
import ModelCompiler.Text.Quoted

/-! # The text of expressions and statements -/

namespace ModelCompiler.Source

/-- A call of a function of the schema library, which the file calls by `q`. -/
def callText (q function : String) (arguments : List String) : String :=
  q ++ "." ++ function ++ "(" ++ Text.joinWith ", " arguments ++ ")"

def settingText (q : String) : Setting → String
  | .bounds lower upper => callText q "Bounds" [Text.quote lower, Text.quote upper]
  | .default v => callText q "Default" [Text.quote v]
  | .composite => callText q "Composite" []
  | .derived => callText q "Derived" []
  | .opposite n => callText q "Opposite" [Text.quote n]

/-- The function that makes a property of a shape, and its arguments after the name. -/
def constructor : Shape → String × List String
  | .attribute type => ("NewAttribute", [Text.quote type])
  | .enumeration e => ("NewEnumerationAttribute", [e])
  | .association c => ("NewAssociation", [c])
  | .derivedUnion c => ("NewDerivedUnion", [c])
  | .redefinition c r => ("NewRedefine", [c, Text.quote r])

def termText (q : String) (t : PropertyTerm) : String :=
  let (function, arguments) := constructor t.shape
  callText q function (Text.quote t.name :: arguments ++ t.settings.map (settingText q))

def lookupText (l : PropertyLookup) : String := l.owner ++ ".Property(" ++ Text.quote l.name ++ ")"

def ClassDecl.value (q : String) (d : ClassDecl) : String :=
  callText q "NewClass" (Text.quote d.name :: d.generals)

def EnumerationDecl.value (q : String) (d : EnumerationDecl) : String :=
  callText q "NewEnumeration" (Text.quote d.name :: d.literals.map Text.quote)

/-- The lines of a statement, which stand inside a function. -/
def AddStatement.lines (q : String) (s : AddStatement) : List String :=
  (if s.simple then ["\t// simple attribute"] else []) ++
    ["\t" ++ s.owner ++ ".Add(" ++ termText q s.term ++ ")"]

def SubsetsStatement.line (q : String) (s : SubsetsStatement) : String :=
  "\t" ++ q ++ ".Subsets(" ++
    Text.joinWith ",\n\t\t" (lookupText s.union :: s.members.map lookupText) ++ ")"

def OperationStatement.line (s : OperationStatement) : String :=
  "\t" ++ s.owner ++ ".AddOperation(" ++ Text.quote s.name ++ ")"

namespace File

/-- The body of the function that fills the classes; a blank line stands before the subsets and
before the operations. -/
def bodyLines (f : File) (q : String) : List String :=
  f.properties.flatMap (AddStatement.lines q) ++
  (if f.subsets.isEmpty then [] else "" :: f.subsets.map (SubsetsStatement.line q)) ++
  (if f.operations.isEmpty then [] else "" :: f.operations.map OperationStatement.line)

/-- The function that fills the classes. -/
def initLines (f : File) (q : String) : List String :=
  "func init() \x7b" :: f.bodyLines q ++ ["\x7d"]

/-- The list of what is left out. -/
def omissionLines (f : File) : List String :=
  "// Not generated:" :: f.omissions.map fun o => "//   - " ++ o.text

end File

/-- Lines, each with its end. -/
def unlines (lines : List String) : String := Text.joinWith "" (lines.map (· ++ "\n"))

end ModelCompiler.Source
