import ModelCompiler.Model.Basic
import ModelCompiler.Override.Basic
import ModelCompiler.Plan.Multiplicity
import ModelCompiler.Text.Case

/-! # Attributes -/

namespace ModelCompiler

/-- Where an attribute comes from: it is owned by a class, it stands for an association with a
scalar value, or it is owned and declared derived. -/
inductive AttributeSource where
  | plain
  | simple
  | derived
deriving DecidableEq, Repr

namespace AttributeSource

def label : AttributeSource → String
  | .plain => "plain"
  | .simple => "simple"
  | .derived => "derived"

def labels : List String := ["plain", "simple", "derived"]

end AttributeSource

/-- A property with scalar values or with the literals of an enumeration as values. -/
structure Attribute where
  property : String := ""
  className : String
  name : String
  /-- The scalar type, or the name of the enumeration. -/
  type : String
  enumeration : Option String := none
  default? : Option String := none
  bounds : Multiplicity := {}
  source : AttributeSource := .plain
deriving DecidableEq, Repr

def Attribute.qualified (a : Attribute) : String := a.className ++ "." ++ a.name

/-- The scalar types by the names that models use for them, in lower case. -/
def scalarTypes : List (String × String) :=
  [("string", "string"), ("str", "string"), ("integer", "int"), ("int", "int"),
   ("boolean", "bool"), ("bool", "bool"), ("real", "float64"), ("float", "float64"),
   ("unlimitednatural", "string")]

/-- The scalar type for the type of a property, apart from case and blanks around it. -/
def scalarType (typeValue : String) : String :=
  (scalarTypes.lookup (Text.lowered (Text.trimmed typeValue))).getD "string"

namespace Model

/-- The enumeration that types a property, by reference or else by its name. -/
def enumerationOf? (m : Model) (p : Property) : Option Enumeration :=
  match m.enumeration? p.typeId with
  | some e => some e
  | none => if p.typeValue = "" then none else m.enumerations.find? (·.name == p.typeValue)

/-- The attribute that a class owns, before overrides. -/
def ownAttribute (m : Model) (c : Class) (p : Property) : Attribute :=
  let enumeration := (m.enumerationOf? p).map (·.name)
  { property := p.id
    className := c.name
    name := p.name
    type := enumeration.getD (scalarType p.typeValue)
    enumeration
    default? := if p.defaultValue = "" then none else some p.defaultValue
    bounds := .ofAttribute p.lower p.upper }

end Model

namespace Attribute

/-- The attribute with a type and a default given by hand; a type by hand is a scalar type. -/
def override (a : Attribute) (o : AttributeOverride) : Attribute :=
  let typed := if o.type = "" then a else { a with type := o.type, enumeration := none }
  match o.default? with
  | none => typed
  | some d => { typed with default? := some d }

/-- The attribute as the policy has it. -/
def under (a : Attribute) (policy : Policy) : Attribute :=
  let b := match policy.attribute? a.qualified with
    | none => a
    | some o => a.override o
  if policy.derives a.qualified then { b with source := .derived } else b

end Attribute

namespace Model

/-- The attributes of a class: its owned properties that are no association ends. -/
def attributesOf (m : Model) (policy : Policy) (c : Class) : List Attribute :=
  ((c.ownedAttributes.filterMap m.property?).filter (·.associationId == "")).map fun p =>
    (m.ownAttribute c p).under policy

end Model

end ModelCompiler
