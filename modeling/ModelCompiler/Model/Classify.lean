import ModelCompiler.Model.Basic
import ModelCompiler.Model.Conventions
import ModelCompiler.Text.Pieces

/-! # The elements of a graph by what they are -/

namespace ModelCompiler

/-- What an element is. -/
inductive Entity where
  | structural (c : Class)
  | enumeration (e : Enumeration)
  | generalization (g : Generalization)
  | association (a : Association)
  | property (p : Property)
  | operation (o : Operation)
  | extension (x : Extension)
deriving DecidableEq, Repr

namespace Entity

def class? : Entity → Option Class
  | .structural c => some c
  | _ => none

def enumeration? : Entity → Option Enumeration
  | .enumeration e => some e
  | _ => none

def generalization? : Entity → Option Generalization
  | .generalization g => some g
  | _ => none

def association? : Entity → Option Association
  | .association a => some a
  | _ => none

def property? : Entity → Option Property
  | .property p => some p
  | _ => none

def operation? : Entity → Option Operation
  | .operation o => some o
  | _ => none

def extension? : Entity → Option Extension
  | .extension x => some x
  | _ => none

end Entity

/-- Whether a name ends with one of the suffixes; the empty suffix is no suffix. -/
def isEnumerationName (suffixes : List String) (name : String) : Bool :=
  suffixes.any fun s => s != "" && Text.hasEnding name s

namespace Property

def ofElement (g : Graph) (e : Element) : Property where
  id := e.id
  name := e.name
  classId := e.firstRef "class_"
  typeId := e.firstRef "type"
  typeValue := e.text "typeValue"
  associationId := e.firstRef "association"
  lower := e.text "lowerValue"
  upper := e.text "upperValue"
  defaultValue := e.text "defaultValue"
  aggregation := e.text "aggregation"
  isDerived := e.flag "isDerived"
  stereotypes := g.resolve e "appliedStereotype"

end Property

namespace Entity

/-- A class without a name is nothing, and neither is an element of any other type. -/
def ofElement? (cv : Conventions) (g : Graph) (e : Element) : Option Entity :=
  match e.type with
  | "Class" =>
    if e.name = "" then none
    else if isEnumerationName cv.enumerationSuffixes e.name then
      some (.enumeration { id := e.id, name := e.name, ownedAttributes := e.refs "ownedAttribute" })
    else
      some (.structural
        { id := e.id
          name := e.name
          appliedStereotypes := e.refs "appliedStereotype"
          ownedAttributes := e.refs "ownedAttribute"
          ownedOperations := e.refs "ownedOperation" })
  | "Generalization" => some (.generalization
      { id := e.id, specific := e.firstRef "specific", general := e.firstRef "general" })
  | "Association" => some (.association { id := e.id, memberEnds := e.refs "memberEnd" })
  | "Property" => some (.property (Property.ofElement g e))
  | "Operation" => some (.operation { id := e.id, name := e.name })
  | "Extension" => some (.extension { id := e.id, memberEnds := e.refs "memberEnd" })
  | _ => none

end Entity

namespace Model

/-- The model of a graph, before any link between its classes. -/
def ofGraph (cv : Conventions) (g : Graph) : Model :=
  let entities := g.elements.filterMap (Entity.ofElement? cv g)
  { graph := g
    classes := entities.filterMap Entity.class?
    enumerations := entities.filterMap Entity.enumeration?
    generalizations := entities.filterMap Entity.generalization?
    associations := entities.filterMap Entity.association?
    properties := entities.filterMap Entity.property?
    operations := entities.filterMap Entity.operation?
    extensions := entities.filterMap Entity.extension? }

end Model

end ModelCompiler
