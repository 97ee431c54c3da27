import ModelCompiler.Element.Graph

/-! # Typed models -/

namespace ModelCompiler

/-- A class as others refer to it. -/
structure ClassRef where
  id : String
  name : String
deriving DecidableEq, Repr, Inhabited

/-- A structural class. -/
structure Class extends ClassRef where
  appliedStereotypes : List String := []
  ownedAttributes : List String := []
  ownedOperations : List String := []
deriving DecidableEq, Repr

/-- A class whose literals are the names of its owned attributes. -/
structure Enumeration where
  id : String
  name : String
  ownedAttributes : List String := []
  literals : List String := []
deriving DecidableEq, Repr

/-- An association end or a plain attribute. -/
structure Property where
  id : String
  name : String
  /-- The owning class; empty for an end that cannot be navigated to. -/
  classId : String
  typeId : String
  typeValue : String
  associationId : String
  lower : String
  upper : String
  defaultValue : String
  aggregation : String
  isDerived : Bool
  stereotypes : List Element
deriving DecidableEq, Repr

structure Association where
  id : String
  memberEnds : List String
deriving DecidableEq, Repr

structure Generalization where
  id : String
  specific : String
  general : String
deriving DecidableEq, Repr

structure Operation where
  id : String
  name : String
deriving DecidableEq, Repr

/-- Attaches a stereotype to a metaclass. -/
structure Extension where
  id : String
  memberEnds : List String
deriving DecidableEq, Repr

/-- A generalization between two classes. -/
structure Link where
  specific : ClassRef
  general : ClassRef
deriving DecidableEq, Repr

/-- Lists of classes, each kept under the identifier of the class that it belongs to. -/
structure Kin where
  lists : List (String × List ClassRef) := []
deriving DecidableEq, Repr

namespace Kin

/-- The list of a class; empty as long as nothing has been appended to it. -/
def of (k : Kin) (id : String) : List ClassRef := (k.lists.lookup id).getD []

/-- Appends a class to the list under an identifier. -/
def append (id : String) (c : ClassRef) :
    List (String × List ClassRef) → List (String × List ClassRef)
  | [] => [(id, [c])]
  | (owner, cs) :: lists =>
    if id = owner then (owner, cs ++ [c]) :: lists else (owner, cs) :: append id c lists

def add (k : Kin) (id : String) (c : ClassRef) : Kin := ⟨append id c k.lists⟩

/-- Only the list that is appended to changes. -/
theorem of_add (k : Kin) (id : String) (c : ClassRef) (a : String) :
    (k.add id c).of a = k.of a ++ if id = a then [c] else [] := by
  obtain ⟨lists⟩ := k
  simp only [add, of]
  induction lists with
  | nil =>
    by_cases same : a = id
    · simp [append, same]
    · simp [append, List.lookup_cons, beq_false_of_ne same, Ne.symm same]
  | cons entry lists ih =>
    obtain ⟨owner, cs⟩ := entry
    rw [append]
    split
    · rename_i own
      subst own
      by_cases same : a = id
      · simp [same]
      · simp [List.lookup_cons, beq_false_of_ne same, Ne.symm same]
    · rename_i other
      by_cases same : a = owner
      · simp [same, other]
      · rw [List.lookup_cons, List.lookup_cons, beq_false_of_ne same]
        exact ih

end Kin

/-- The direct supertypes and the direct subtypes of classes. -/
structure Hierarchy where
  supertypes : Kin := {}
  subtypes : Kin := {}
deriving DecidableEq, Repr

/-- Links two classes in both directions. -/
def Hierarchy.add (h : Hierarchy) (l : Link) : Hierarchy where
  supertypes := h.supertypes.add l.specific.id l.general
  subtypes := h.subtypes.add l.general.id l.specific

/-- The elements of a graph by what they are, each kind in document order, with the links between
the classes and the stereotypes given to them so far, the latest first. -/
structure Model where
  graph : Graph := .empty
  classes : List Class := []
  enumerations : List Enumeration := []
  generalizations : List Generalization := []
  associations : List Association := []
  properties : List Property := []
  operations : List Operation := []
  extensions : List Extension := []
  hierarchy : Hierarchy := {}
  stereotypes : List (String × String) := []

namespace Model

def class? (m : Model) (id : String) : Option Class := m.classes.find? (·.id == id)

def property? (m : Model) (id : String) : Option Property := m.properties.find? (·.id == id)

def operation? (m : Model) (id : String) : Option Operation := m.operations.find? (·.id == id)

def enumeration? (m : Model) (id : String) : Option Enumeration :=
  m.enumerations.find? (·.id == id)

/-- The direct supertypes of a class, in document order. -/
def generals (m : Model) (id : String) : List ClassRef := m.hierarchy.supertypes.of id

/-- The direct subtypes of a class, in document order. -/
def specials (m : Model) (id : String) : List ClassRef := m.hierarchy.subtypes.of id

/-- The stereotype that a class was given last; empty when it was given none. -/
def stereotype (m : Model) (id : String) : String := (m.stereotypes.lookup id).getD ""

def hasStereotype (m : Model) (id stereotype : String) : Bool :=
  m.stereotype id != "" && m.stereotype id == stereotype

end Model

end ModelCompiler
