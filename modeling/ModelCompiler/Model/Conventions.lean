/-! # How the elements of a model are read -/

namespace ModelCompiler

/-- The conventions that a model follows, and whether a warning stops the work. -/
structure Conventions where
  /-- Classes whose name ends with one of these are enumerations. -/
  enumerationSuffixes : List String := ["Kind", "Sort"]
  /-- The stereotype of classes that stand for scalar values. -/
  simpleAttribute : String := "SimpleAttribute"
  strict : Bool := false
deriving DecidableEq, Repr

end ModelCompiler
