import ModelCompiler.Model.Basic
import ModelCompiler.Plan.Multiplicity
import ModelCompiler.Plan.Tags
import ModelCompiler.Text.Label

/-! # Association ends and their roles -/

namespace ModelCompiler

/-- What an association end becomes in generated code. -/
inductive Role where
  | nonNavigable
  | simpleAttribute
  | redefinition
  | derivedUnion
  | plain
deriving DecidableEq, Repr

namespace Role

def labels : List String :=
  ["NonNavigable", "SimpleAttribute", "Redefinition", "DerivedUnionMember", "PlainAssociation"]

def label : Role → String
  | .nonNavigable => "NonNavigable"
  | .simpleAttribute => "SimpleAttribute"
  | .redefinition => "Redefinition"
  | .derivedUnion => "DerivedUnionMember"
  | .plain => "PlainAssociation"

/-- The label of a number; a number beyond the roles is shown as it is. -/
def labelAt (n : Int) : String :=
  (Text.labelAt? labels n).getD ("Classification(" ++ toString n ++ ")")

end Role

/-- One end of an association. What belongs to its owner is empty when it cannot be navigated to. -/
structure End where
  property : String := ""
  /-- The first identifier that the property gives as its type. -/
  typeId : String := ""
  owner : Option ClassRef := none
  type : ClassRef := default
  navigable : Bool := false
  name : String := ""
  className : String := ""
  typeName : String := ""
  bounds : Multiplicity := {}
  composite : Bool := false
  derived : Bool := false
  subsets : List String := []
  redefines : String := ""
  role : Role := .nonNavigable
deriving DecidableEq, Repr

namespace End

def qualified (e : End) : String := e.className ++ "." ++ e.name

/-- The role of an end as far as its association decides it; `simple` says whether one of its ends
is typed by a class of scalar values. -/
def ownRole? (e : End) (simple : Bool) : Option Role :=
  if !e.navigable then some .nonNavigable
  else if simple then some .simpleAttribute
  else if e.redefines ≠ "" then some .redefinition
  else if e.derived then some .derivedUnion
  else none

/-- The properties that the policy is asked about to find the role of an end. -/
def questions (e : End) (simple : Bool) : List String :=
  if (e.ownRole? simple).isNone then [e.qualified] else []

/-- The role of an end. -/
def roleBy (e : End) (simple : Bool) (derives : String → Bool) : Role :=
  match e.ownRole? simple with
  | some r => r
  | none => if derives e.qualified then .derivedUnion else .plain

/-- The end that a property is, with its owner and its type. -/
def ofProperty (g : Graph) (p : Property) (owner : Option ClassRef) (type : ClassRef) : End :=
  match owner with
  | none => { property := p.id, typeId := p.typeId, type }
  | some c =>
    let tags := Tags.read g p.stereotypes
    { property := p.id
      typeId := p.typeId
      owner
      type
      navigable := true
      name := p.name
      className := c.name
      typeName := type.name
      bounds := .ofEnd p.lower p.upper
      composite := p.aggregation == "composite"
      derived := p.isDerived
      subsets := tags.subsets
      redefines := tags.redefines }

def tags (e : End) : Tags where
  subsets := e.subsets
  redefines := e.redefines

end End

end ModelCompiler
