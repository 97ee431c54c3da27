import ModelCompiler.Model.Basic

/-! # Which classes are generated, and what enumerations list -/

namespace ModelCompiler

namespace Graph

/-- The metaclasses of an extension: the types of its ends that have an owner, or of its first
typed end when none has. -/
def metaclasses (g : Graph) (x : Extension) : List Element :=
  let typed := (x.memberEnds.filterMap g.get?).filterMap fun e =>
    (g.resolveFirst? e "type").map fun t => (e, t)
  let owned := (typed.filter fun p => p.1.has "class_").map (·.2)
  if owned.isEmpty then (typed.map (·.2)).take 1 else owned

end Graph

namespace Model

/-- Whether an extension attaches to the class. -/
def isMetaclass (m : Model) (id : String) : Bool :=
  m.extensions.any fun x => (m.graph.metaclasses x).any (·.id == id)

def withoutMetaclasses (m : Model) (cs : List Class) : List Class :=
  cs.filter fun c => !m.isMetaclass c.id

def withoutStereotype (m : Model) (name : String) (cs : List Class) : List Class :=
  cs.filter fun c => !m.hasStereotype c.id name

/-- The name of a literal: that of the element, whatever it is. -/
def literal? (m : Model) (id : String) : Option String :=
  match m.property? id with
  | some p => some p.name
  | none => (m.graph.get? id).map (·.name)

/-- Every enumeration with its literals. -/
def listLiterals (m : Model) : Model :=
  { m with enumerations := m.enumerations.map fun e =>
      { e with literals := e.ownedAttributes.filterMap m.literal? } }

end Model

end ModelCompiler
