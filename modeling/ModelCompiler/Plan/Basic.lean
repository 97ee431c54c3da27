import ModelCompiler.Diagnostic.Journal
import ModelCompiler.Model.Stereotype
import ModelCompiler.Plan.Attribute
import ModelCompiler.Plan.End

/-! # Plans: all that code generation needs -/

namespace ModelCompiler

/-- A derived property whose values are those of its members. -/
structure DerivedUnion where
  toEnd : End
  members : List End := []
deriving DecidableEq, Repr

/-- An operation of a generated class. -/
structure ClassOperation where
  id : String := ""
  className : String
  name : String
deriving DecidableEq, Repr

/-- The outcome of resolving a model. -/
structure Plan where
  model : Model := {}
  classes : List Class := []
  enumerations : List Enumeration := []
  attributes : List Attribute := []
  associations : List (End × End) := []
  redefinitions : List End := []
  derivedUnions : List DerivedUnion := []
  operations : List ClassOperation := []
  /-- Both ends of every accepted association. -/
  ends : List End := []
  tags : TagTable := []
  /-- The properties that have been turned into attributes. -/
  written : List String := []
  /-- The classes that have been emitted. -/
  emitted : List String := []
  journal : Journal := {}

/-- Why a model has no plan. -/
inductive Fault where
  | noGraph
  | generalizationCycle (c : Cycle)
  | unnamedEnd (property className : String)
  | duplicateUnion (qualified className : String)
  | strict (report : Report)
deriving DecidableEq, Repr

def Fault.message : Fault → String
  | .noGraph => "model graph is required"
  | .generalizationCycle c =>
    "class '" ++ c.child ++ "' specializes itself through '" ++ c.parent ++
      "': generalization cycle"
  | .unnamedEnd property className =>
    property ++ " (" ++ className ++ "): navigable association end has no name"
  | .duplicateUnion qualified className =>
    qualified ++ " is already in derived union set in class " ++ className ++
      ": duplicate derived union"
  | .strict report => "strict mode: " ++ (report.combined?).getD ""

end ModelCompiler
