/-! # Terms for the properties that a file declares -/

namespace ModelCompiler.Source

/-- What a property is; classes and enumerations are given by their variables. -/
inductive Shape where
  | attribute (type : String)
  | enumeration (values : String)
  | association (type : String)
  | derivedUnion (type : String)
  | redefinition (type redefines : String)
deriving DecidableEq, Repr

/-- Something that a term says about a property. -/
inductive Setting where
  | bounds (lower upper : String)
  | default (value : String)
  | composite
  | derived
  | opposite (name : String)
deriving DecidableEq, Repr

/-- A property that is to be made. -/
structure PropertyTerm where
  name : String
  shape : Shape
  settings : List Setting := []
deriving DecidableEq, Repr

end ModelCompiler.Source
