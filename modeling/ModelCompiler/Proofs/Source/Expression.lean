import ModelCompiler.Source.File

/-!
# The expressions of a file

A statement of a file is a call of a function of the schema library or of a method of what an
expression stands for; its arguments are texts, variables and further calls.
-/

namespace ModelCompiler.Source

/-- An expression: a variable, a text, or a call of a function of what the receiver stands for. -/
inductive Expr where
  | name (ident : String)
  | text (value : String)
  | call (receiver : Expr) (function : String) (arguments : List Expr)

/-- A call of a function of the schema library, which the file calls by `q`. -/
def Expr.library (q function : String) (arguments : List Expr) : Expr :=
  .call (.name q) function arguments

def Setting.expr (q : String) : Setting → Expr
  | .bounds lower upper => .library q "Bounds" [.text lower, .text upper]
  | .default v => .library q "Default" [.text v]
  | .composite => .library q "Composite" []
  | .derived => .library q "Derived" []
  | .opposite n => .library q "Opposite" [.text n]

/-- The function that makes a property of a shape, and its arguments after the name. -/
def Shape.expr : Shape → String × List Expr
  | .attribute type => ("NewAttribute", [.text type])
  | .enumeration e => ("NewEnumerationAttribute", [.name e])
  | .association c => ("NewAssociation", [.name c])
  | .derivedUnion c => ("NewDerivedUnion", [.name c])
  | .redefinition c r => ("NewRedefine", [.name c, .text r])

/-- The variable of the class or of the enumeration to which a shape refers. -/
def Shape.references : Shape → List String
  | .attribute _ => []
  | .enumeration e => [e]
  | .association c | .derivedUnion c | .redefinition c _ => [c]

def PropertyTerm.expr (q : String) (t : PropertyTerm) : Expr :=
  .library q t.shape.expr.1 (.text t.name :: t.shape.expr.2 ++ t.settings.map (·.expr q))

def PropertyLookup.expr (l : PropertyLookup) : Expr :=
  .call (.name l.owner) "Property" [.text l.name]

def AddStatement.expr (q : String) (s : AddStatement) : Expr :=
  .call (.name s.owner) "Add" [s.term.expr q]

def SubsetsStatement.expr (q : String) (s : SubsetsStatement) : Expr :=
  .library q "Subsets" (s.union.expr :: s.members.map (·.expr))

def OperationStatement.expr (s : OperationStatement) : Expr :=
  .call (.name s.owner) "AddOperation" [.text s.name]

/-- The variables to which the statement for a property refers. -/
def AddStatement.references (s : AddStatement) : List String := s.owner :: s.term.shape.references

def SubsetsStatement.references (s : SubsetsStatement) : List String :=
  s.union.owner :: s.members.map (·.owner)

/-- The statements of the function that fills the classes. -/
def File.body (f : File) : List Expr :=
  f.properties.map (·.expr f.qualifier) ++ f.subsets.map (·.expr f.qualifier) ++
    f.operations.map (·.expr)

/-- The statements that declare properties and add operations. -/
def File.additions (f : File) : List Expr :=
  f.properties.map (·.expr f.qualifier) ++ f.operations.map (·.expr)

end ModelCompiler.Source
