import ModelCompiler.Source.Term

/-! # Generated files -/

namespace ModelCompiler.Source

/-- What a file is generated for. -/
structure Target where
  package : String := "model"
  /-- The import path of the schema library that the file calls. -/
  runtime : String := "uml-generator/properties"
  header : String := "// Code generated by uml-generator. DO NOT EDIT."
  /-- Whether notices are written. -/
  comments : Bool := true
deriving DecidableEq, Repr

/-- A variable for a class. -/
structure ClassDecl where
  ident : String
  name : String
  generals : List String := []
deriving DecidableEq, Repr

/-- A variable for an enumeration. -/
structure EnumerationDecl where
  ident : String
  name : String
  literals : List String := []
deriving DecidableEq, Repr

/-- Declares a property on the class of a variable. Classes and enumerations are referred to by
their variables. -/
structure AddStatement where
  owner : String
  term : PropertyTerm
  /-- Whether a comment says that the property stands for an association with a scalar value. -/
  simple : Bool := false
deriving DecidableEq, Repr

/-- The property of a name on the class of a variable. -/
structure PropertyLookup where
  owner : String
  name : String
deriving DecidableEq, Repr

/-- Gives a derived union its members. -/
structure SubsetsStatement where
  union : PropertyLookup
  members : List PropertyLookup
deriving DecidableEq, Repr

structure OperationStatement where
  owner : String
  name : String
deriving DecidableEq, Repr

/-- Something that was called for and is left out. -/
inductive Omission where
  | propertyOfNoClass (className name : String)
  | operationOfNoClass (className name : String)
  | repeated (qualified : String)
  | noType (qualified typeName : String)
  | noMember (member union : String)
deriving DecidableEq, Repr

def Omission.text : Omission → String
  | .propertyOfNoClass c n => c ++ "." ++ n ++ ": class " ++ c ++ " is not generated"
  | .operationOfNoClass c n => c ++ "." ++ n ++ "(): class " ++ c ++ " is not generated"
  | .repeated q => q ++ ": declared more than once"
  | .noType q t => q ++ ": type " ++ t ++ " is not generated"
  | .noMember m u => m ++ ": member of " ++ u ++ " is not generated"

/-- A generated file. -/
structure File where
  header : String
  package : String
  /-- The name under which the file calls the schema library, and its import path. -/
  qualifier : String
  runtime : String
  notices : List String := []
  classes : List ClassDecl := []
  enumerations : List EnumerationDecl := []
  properties : List AddStatement := []
  subsets : List SubsetsStatement := []
  operations : List OperationStatement := []
  omissions : List Omission := []
deriving DecidableEq, Repr

namespace File

/-- A file that declares nothing imports nothing. -/
def hasImport (f : File) : Bool := !f.classes.isEmpty || !f.enumerations.isEmpty

def hasInit (f : File) : Bool :=
  !f.properties.isEmpty || !f.subsets.isEmpty || !f.operations.isEmpty

end File

end ModelCompiler.Source
