import ModelCompiler.Model.Selection
import ModelCompiler.Plan.Basic

/-! # Associations and their ends -/

namespace ModelCompiler

/-- What a reference to a class leads to. -/
inductive ClassLookup where
  | absent
  | unknown
  | found (c : ClassRef)
deriving DecidableEq, Repr

/-- Looks up a field of an element among the classes of the scope. -/
def lookupClass (g : Graph) (scope : List Class) (e : Element) (field : String) : ClassLookup :=
  if !e.has field then .absent
  else match g.resolveFirst? e field with
    | none => .unknown
    | some target => match scope.find? (·.id == target.id) with
      | none => .unknown
      | some c => .found c.toClassRef

namespace Association

def wrongEnds (a : Association) (count : Nat) : Diagnostic where
  severity := .warning
  code := "bad_association"
  message := "association has " ++ toString count ++ " resolvable member ends, expected 2"
  element := a.id
  subject := ""

def noProperty (a : Association) (member : Element) : Diagnostic where
  severity := .warning
  code := "bad_association"
  message := "member end " ++ member.id ++ " is not a property"
  element := a.id
  subject := ""

end Association

/-- A property whose type or owner is no class that can be generated. -/
def Property.unknownClass (p : Property) (what : String) : Diagnostic where
  severity := .warning
  code := "unknown_class"
  message := what ++ " of end " ++ Text.quote p.name ++ " is not a generated class"
  element := p.id
  subject := ""

namespace Model

/-- The end that a member of an association is, or the warning that it is none. -/
def memberEnd (m : Model) (scope : List Class) (a : Association) (member : Element) :
    Except Diagnostic End :=
  match m.property? member.id with
  | none => .error (a.noProperty member)
  | some p => match lookupClass m.graph scope member "type" with
    | .absent | .unknown => .error (p.unknownClass "type")
    | .found type => match lookupClass m.graph scope member "class_" with
      | .unknown => .error (p.unknownClass "owner")
      | .absent => .ok (End.ofProperty m.graph p none type)
      | .found owner => .ok (End.ofProperty m.graph p (some owner) type)

/-- Both ends of an association, or the warning for the first thing that is wrong with it. -/
def endsOf (m : Model) (scope : List Class) (a : Association) : Except Diagnostic (End × End) :=
  match a.memberEnds.filterMap m.graph.get? with
  | [first, second] =>
    match m.memberEnd scope a first with
    | .error d => .error d
    | .ok e => match m.memberEnd scope a second with
      | .error d => .error d
      | .ok f => .ok (e, f)
  | members => .error (a.wrongEnds members.length)

end Model

/-- The ends of an association in their roles, and which of them is the simple one: the last that
is typed by a class of scalar values. -/
structure Classified where
  first : End
  second : End
  firstIsSimple : Bool
  secondIsSimple : Bool
deriving DecidableEq, Repr

namespace Classified

def ofEnds (m : Model) (simpleAttribute : String) (policy : Policy) (ends : End × End) :
    Classified :=
  let secondIsSimple := m.hasStereotype ends.2.type.id simpleAttribute
  let firstIsSimple := !secondIsSimple && m.hasStereotype ends.1.type.id simpleAttribute
  let simple := firstIsSimple || secondIsSimple
  { first := { ends.1 with role := ends.1.roleBy simple policy.derives }
    second := { ends.2 with role := ends.2.roleBy simple policy.derives }
    firstIsSimple
    secondIsSimple }

end Classified

namespace Plan

/-- Notes the tags of an end, which must have a name if it can be navigated to. -/
def noteTags (p : Plan) (e : End) : Plan × Option Fault :=
  if !e.navigable then (p, none)
  else if e.name = "" then (p, some (.unnamedEnd e.property e.className))
  else ({ p with tags := TagTable.put e.qualified e.tags p.tags }, none)

/-- The attribute that stands for an association with a scalar value. -/
def simpleAttribute (head tail : End) : Attribute where
  property := head.property
  className := tail.type.name
  name := head.name
  type := "string"
  bounds := head.bounds
  source := .simple

/-- Turns an association with a scalar value into an attribute. -/
def addSimple (p : Plan) (head tail : End) : Plan :=
  let a := simpleAttribute head tail
  { p with
    attributes := p.attributes ++ [a]
    written := head.property :: tail.property :: p.written
    journal := (p.journal.comment ("'" ++ a.qualified ++ "' is a simple attribute")).inform
      "simple_attribute" "rewritten as a simple attribute" head.property a.qualified }

def addRedefinition (p : Plan) (head : End) : Plan :=
  let text := "redefining " ++ head.redefines ++ " -> " ++ head.qualified
  { p with
    redefinitions := p.redefinitions ++ [head]
    journal := (p.journal.comment text).inform "redefine" text head.property head.qualified }

/-- Adds a derived union, of which there is one for a name. -/
def addUnion (p : Plan) (head : End) : Plan × Option Fault :=
  match p.derivedUnions.find? (·.toEnd.name == head.name) with
  | some u => (p, some (.duplicateUnion head.qualified u.toEnd.className))
  | none =>
    ({ p with
        derivedUnions := p.derivedUnions ++ [{ toEnd := head }]
        written := p.written.filter (· != head.property) }, none)

/-- Puts an end where its role takes it. -/
def place (p : Plan) (head tail : End) (isSimple : Bool) : Plan × Option Fault :=
  match head.role with
  | .nonNavigable => (p, none)
  | .simpleAttribute => (if isSimple then p.addSimple head tail else p, none)
  | .redefinition => (p.addRedefinition head, none)
  | .derivedUnion => p.addUnion head
  | .plain => ({ p with associations := p.associations ++ [(head, tail)] }, none)

/-- Goes on unless there was a fault. -/
def andThen (r : Plan × Option Fault) (f : Plan → Plan × Option Fault) : Plan × Option Fault :=
  match r with
  | (p, some e) => (p, some e)
  | (p, none) => f p

/-- The plan with an accepted association: first the tags of both ends, then each end in its
place, and last both ends themselves. -/
def addEnds (p : Plan) (c : Classified) : Plan × Option Fault :=
  andThen (p.noteTags c.first) fun p =>
  andThen (p.noteTags c.second) fun p =>
  andThen (p.place c.first c.second c.firstIsSimple) fun p =>
  andThen (p.place c.second c.first c.secondIsSimple) fun p =>
  ({ p with ends := p.ends ++ [c.first, c.second] }, none)

/-- The plan with one more association, which a warning stands for if it is not accepted. -/
def addAssociation (scope : List Class) (simpleAttribute : String) (policy : Policy) (p : Plan)
    (a : Association) : Plan × Option Fault :=
  match p.model.endsOf scope a with
  | .error d => ({ p with journal := p.journal.add d }, none)
  | .ok ends => p.addEnds (.ofEnds p.model simpleAttribute policy ends)

/-- The plan with associations up to the first fault. -/
def addAssociations (scope : List Class) (simpleAttribute : String) (policy : Policy) :
    Plan → List Association → Plan × Option Fault
  | p, [] => (p, none)
  | p, a :: rest =>
    andThen (p.addAssociation scope simpleAttribute policy a) fun p =>
      addAssociations scope simpleAttribute policy p rest

end Plan

end ModelCompiler
