import ModelCompiler.Model.Classify
import ModelCompiler.Model.Hierarchy
import ModelCompiler.Plan.Association
import ModelCompiler.Plan.Union

/-! # From a graph to a plan -/

namespace ModelCompiler

/-- A plan, which is only begun if there was a fault. -/
structure Resolution where
  plan : Plan
  fault? : Option Fault := none

namespace Plan

/-- The operations of the classes of a plan. -/
def classOperations (p : Plan) : List ClassOperation :=
  p.classes.flatMap fun c =>
    (c.ownedOperations.filterMap p.model.operation?).map fun o =>
      { id := o.id, className := c.name, name := o.name }

/-- The plan of a linked model before its associations, without the attributes that are declared
derived. -/
def begin (m : Model) (cv : Conventions) (policy : Policy) (journal : Journal) : Plan :=
  let m := m.listLiterals
  let classes := m.withoutStereotype cv.simpleAttribute (m.withoutMetaclasses m.classes)
  { model := m
    classes
    enumerations := m.enumerations
    attributes := (classes.flatMap (m.attributesOf policy)).filter (·.source == .plain)
    journal }

/-- The attributes of the classes of a plan that are declared derived. -/
def derivedAttributes (p : Plan) (policy : Policy) : List Attribute :=
  (p.classes.flatMap (p.model.attributesOf policy)).filter (·.source == .derived)

/-- The plan after its associations: unions get their members, and derived attributes and
operations are listed. -/
def finish (p : Plan) (policy : Policy) : Plan :=
  let q := p.collectUnions
  { q with
    attributes := q.attributes ++ q.derivedAttributes policy
    operations := q.classOperations }

/-- Turns the warnings of a finished plan into errors and stops at them. -/
def enforce (p : Plan) : Resolution :=
  let report := p.journal.report.promote
  { plan := { p with journal := { p.journal with report } }
    fault? := if report.isValid then none else some (.strict report) }

end Plan

/-- Resolves a model. -/
def resolve (g : Graph) (policy : Policy) (cv : Conventions) : Resolution :=
  let m := (Model.ofGraph cv g).linkClasses
  let told := m.unlinked.foldl Journal.add {}
  let handed := m.propagate told
  let m := { m with stereotypes := handed.stereotypes }
  match handed.cycle with
  | some c =>
    { plan := { model := m, journal := handed.journal }
      fault? := some (.generalizationCycle c) }
  | none =>
    let begun := Plan.begin m cv policy handed.journal
    let scope := m.withoutMetaclasses m.classes
    match begun.addAssociations scope cv.simpleAttribute policy m.associations with
    | (p, some e) => { plan := p, fault? := some e }
    | (p, none) =>
      let done := p.finish policy
      if cv.strict then done.enforce else { plan := done }

/-- Resolves a model if there is one. -/
def resolve? (g : Option Graph) (policy : Policy) (cv : Conventions) : Except Fault Resolution :=
  match g with
  | none => .error .noGraph
  | some g => .ok (resolve g policy cv)

end ModelCompiler
