import ModelCompiler.Text.Decimal

/-! # The properties of a schema

Classes and properties are named by the number of those made before them. -/

namespace ModelCompiler.Schema

abbrev ClassId := Nat

abbrev PropertyId := Nat

/-- What a property is. -/
inductive PropertyKind where
  | attribute
  | enumeration
  | association
  | derivedUnion
  | redefinition
deriving DecidableEq, Repr

namespace PropertyKind

def labels : List String :=
  ["attribute", "enumeration", "association", "derivedunion", "redefine"]

def label : PropertyKind → String
  | .attribute => "attribute"
  | .enumeration => "enumeration"
  | .association => "association"
  | .derivedUnion => "derivedunion"
  | .redefinition => "redefine"

end PropertyKind

/-- The upper bound of a property that has no upper bound. -/
def unlimited : String := "*"

/-- The bounds of a property as they are written. -/
structure Multiplicity where
  lower : String
  upper : String
deriving DecidableEq, Repr

namespace Multiplicity

def isMany (m : Multiplicity) : Bool :=
  m.upper == unlimited || (m.upper != "0" && m.upper != "1")

/-- The upper bound as a number, if it is one. -/
def max? (m : Multiplicity) : Option Int := Text.int64OfChars? m.upper.toList

def text (m : Multiplicity) : String := m.lower ++ ".." ++ m.upper

end Multiplicity

structure EnumerationType where
  name : String
  literals : List String
deriving DecidableEq, Repr

/-- A property, which belongs to a class once it has been declared on one. -/
structure Property where
  name : String
  kind : PropertyKind
  /-- The scalar type of an attribute, or the name of its enumeration. -/
  type : String := ""
  /-- The class of the values. -/
  class? : Option ClassId := none
  enumeration? : Option EnumerationType := none
  bounds : Multiplicity
  default? : Option String := none
  composite : Bool := false
  derived : Bool := false
  opposite : String := ""
  /-- The name of the inherited property that a redefinition stands for. -/
  redefines : String := ""
  /-- The members of a derived union. -/
  subsets : List PropertyId := []
  owner? : Option ClassId := none
deriving DecidableEq, Repr

/-- Something that a property can be made with. -/
inductive Setting where
  | bounds (lower upper : String)
  | default (value : String)
  | composite
  | derived
  | opposite (name : String)
deriving DecidableEq, Repr

namespace Property

/-- The property after one more setting. -/
def apply (p : Property) : Setting → Property
  | .bounds lower upper => { p with bounds := { lower, upper } }
  | .default v => { p with default? := some v }
  | .composite => { p with composite := true }
  | .derived => { p with derived := true }
  | .opposite n => { p with opposite := n }

/-- A property that has at most one value unless its settings say otherwise. -/
def new (name : String) (kind : PropertyKind) (settings : List Setting) : Property :=
  settings.foldl apply { name, kind, bounds := { lower := "0", upper := "1" } }

/-- A property that has any number of values unless its settings say otherwise. -/
def newEnd (name : String) (kind : PropertyKind) (class? : Option ClassId)
    (settings : List Setting) : Property :=
  { new name kind (.bounds "0" unlimited :: settings) with class? }

end Property

/-- A call that makes a property. -/
inductive Construction where
  | attribute (name type : String) (settings : List Setting)
  | enumeration (name : String) (values? : Option EnumerationType) (settings : List Setting)
  | association (name : String) (class? : Option ClassId) (settings : List Setting)
  | derivedUnion (name : String) (class? : Option ClassId) (settings : List Setting)
  | redefinition (name : String) (class? : Option ClassId) (redefines : String)
    (settings : List Setting)
deriving DecidableEq, Repr

namespace Construction

def name : Construction → String
  | .attribute n _ _ | .enumeration n _ _ | .association n _ _ | .derivedUnion n _ _
  | .redefinition n _ _ _ => n

/-- The property that is made. A derived union is derived without saying so. -/
def property : Construction → Property
  | .attribute name type settings => { Property.new name .attribute settings with type }
  | .enumeration name values? settings =>
    { Property.new name .enumeration settings with
      enumeration? := values?
      type := (values?.map (·.name)).getD "" }
  | .association name class? settings => .newEnd name .association class? settings
  | .derivedUnion name class? settings =>
    { Property.newEnd name .derivedUnion class? settings with derived := true }
  | .redefinition name class? redefines settings =>
    { Property.newEnd name .redefinition class? settings with redefines }

end Construction

end ModelCompiler.Schema
