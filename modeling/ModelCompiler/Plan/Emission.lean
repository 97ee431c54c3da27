import ModelCompiler.Plan.Basic

/-! # Emission: a plan as a sequence of calls -/

namespace ModelCompiler

/-- A class with its direct supertypes. -/
structure ClassDef extends ClassRef where
  generals : List ClassRef := []
deriving DecidableEq, Repr

/-- One thing to be generated. -/
inductive Call where
  | comment (text : String)
  | classDef (c : ClassDef)
  | enumeration (e : Enumeration)
  | attribute (a : Attribute)
  | association (head : End) (tail? : Option End)
  | redefinition (e : End)
  | derivedUnion (u : DerivedUnion)
  | operation (o : ClassOperation)
deriving DecidableEq, Repr

namespace Plan

def classDef (p : Plan) (c : Class) : ClassDef where
  toClassRef := c.toClassRef
  generals := p.model.generals c.id

/-- The calls for a plan, in the order of generation. -/
def calls (p : Plan) : List Call :=
  p.journal.comments.map .comment ++
  p.classes.map (fun c => .classDef (p.classDef c)) ++
  p.enumerations.map .enumeration ++
  p.attributes.map .attribute ++
  p.associations.map (fun a => .association a.1 (some a.2)) ++
  p.redefinitions.map .redefinition ++
  p.derivedUnions.map .derivedUnion ++
  p.operations.map .operation

/-- Whether the class with an identifier has been emitted. -/
def isEmitted (p : Plan) (id : String) : Bool := p.emitted.contains id

/-- The plan after its calls have been made. -/
def emit (p : Plan) : Plan := { p with emitted := p.classes.map (·.id) ++ p.emitted }

end Plan

end ModelCompiler
