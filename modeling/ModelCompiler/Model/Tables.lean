import ModelCompiler.Model.Classify

/-! # Models as tables

A model can be kept in one table by identifier for each kind of what elements are, beside lists of
the identifiers in the order of their entry, all of them filled in one pass over the graph. -/

namespace ModelCompiler

namespace Entity

/-- The kinds of what an element can be. -/
inductive Kind where
  | structural
  | enumeration
  | generalization
  | association
  | property
  | operation
  | extension
deriving DecidableEq, Repr

def kind : Entity → Kind
  | .structural _ => .structural
  | .enumeration _ => .enumeration
  | .generalization _ => .generalization
  | .association _ => .association
  | .property _ => .property
  | .operation _ => .operation
  | .extension _ => .extension

end Entity

/-- Tables by identifier, the latest entry first, and the identifiers of each table but that of the
operations in the order of their entry. -/
structure Tables where
  classes : List (String × Class) := []
  enumerations : List (String × Enumeration) := []
  generalizations : List (String × Generalization) := []
  associations : List (String × Association) := []
  properties : List (String × Property) := []
  operations : List (String × Operation) := []
  extensions : List (String × Extension) := []
  classOrder : List String := []
  enumerationOrder : List String := []
  generalizationOrder : List String := []
  associationOrder : List String := []
  propertyOrder : List String := []
  extensionOrder : List String := []

namespace Tables

/-- Enters what an element is into its table, and its identifier into the list beside it. -/
def enter (t : Tables) : Entity → Tables
  | .structural c =>
    { t with classes := (c.id, c) :: t.classes, classOrder := t.classOrder ++ [c.id] }
  | .enumeration e =>
    { t with
      enumerations := (e.id, e) :: t.enumerations
      enumerationOrder := t.enumerationOrder ++ [e.id] }
  | .generalization g =>
    { t with
      generalizations := (g.id, g) :: t.generalizations
      generalizationOrder := t.generalizationOrder ++ [g.id] }
  | .association a =>
    { t with
      associations := (a.id, a) :: t.associations
      associationOrder := t.associationOrder ++ [a.id] }
  | .property p =>
    { t with
      properties := (p.id, p) :: t.properties
      propertyOrder := t.propertyOrder ++ [p.id] }
  | .operation o => { t with operations := (o.id, o) :: t.operations }
  | .extension x =>
    { t with
      extensions := (x.id, x) :: t.extensions
      extensionOrder := t.extensionOrder ++ [x.id] }

/-- The tables after an element; one that is nothing leaves them as they are. -/
def step (cv : Conventions) (g : Graph) (t : Tables) (e : Element) : Tables :=
  match Entity.ofElement? cv g e with
  | some x => t.enter x
  | none => t

/-- The tables of a graph, filled in one pass over its elements. -/
def ofGraph (cv : Conventions) (g : Graph) : Tables := g.elements.foldl (step cv g) {}

/-- What stands under an identifier in the table of a kind. -/
def find? (t : Tables) : Entity.Kind → String → Option Entity
  | .structural, id => (t.classes.lookup id).map .structural
  | .enumeration, id => (t.enumerations.lookup id).map .enumeration
  | .generalization, id => (t.generalizations.lookup id).map .generalization
  | .association, id => (t.associations.lookup id).map .association
  | .property, id => (t.properties.lookup id).map .property
  | .operation, id => (t.operations.lookup id).map .operation
  | .extension, id => (t.extensions.lookup id).map .extension

/-- The list beside the table of a kind. -/
def order? (t : Tables) : Entity.Kind → Option (List String)
  | .structural => some t.classOrder
  | .enumeration => some t.enumerationOrder
  | .generalization => some t.generalizationOrder
  | .association => some t.associationOrder
  | .property => some t.propertyOrder
  | .operation => none
  | .extension => some t.extensionOrder

/-- The classes of a table, in the order of the entry of classes. -/
def orderedClasses (t : Tables) (table : List (String × Class)) : List Class :=
  t.classOrder.filterMap fun id => table.lookup id

end Tables

end ModelCompiler
