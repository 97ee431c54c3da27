import ModelCompiler.Source.File
import ModelCompiler.Source.Identifier
import ModelCompiler.Source.Order
import ModelCompiler.Source.Recording
import ModelCompiler.Text.Blank

/-! # From a recording to a file -/

namespace ModelCompiler.Source

/-- Something that takes an identifier in a file. -/
inductive Named where
  | runtime
  | initFunction
  | structural (name : String)
  | enumeration (name : String)
deriving DecidableEq, Repr

def Named.text : Named → String
  | .runtime => "runtime import"
  | .initFunction => "init function"
  | .structural name => "class " ++ Text.quote name
  | .enumeration name => "enumeration " ++ Text.quote name

/-- Why there is no file for a recording. -/
inductive AssemblyError where
  | noRuntime
  | cycle (names : List String)
  | clash (later earlier : Named) (ident : String)
deriving DecidableEq, Repr

def AssemblyError.message : AssemblyError → String
  | .noRuntime => "runtime import path is required"
  | .cycle names =>
    "generalization cycle among classes " ++ Text.joinWith ", " names ++ ": " ++
      OrderError.cycleText
  | .clash later earlier ident =>
    later.text ++ " and " ++ earlier.text ++ " share the identifier " ++ ident

/-- The last part of an import path, apart from slashes at its end. -/
def qualifierOf (path : String) : String :=
  if path = "" then ""
  else match path.toList.reverse.dropWhile (· == '/') with
    | [] => "/"
    | cs => String.ofList (cs.takeWhile (· != '/')).reverse

/-! ## Classes and identifiers -/

/-- The number of the last class in a list with an identifier. -/
def lastIndex? (classes : List ClassDef) (id : String) : Option Nat :=
  (List.range classes.length).reverse.find? fun j => (classes[j]?).any (·.id == id)

/-- The numbers of the supertypes of a class that are in the list, other than its own. -/
def superIndices (classes : List ClassDef) (i : Nat) : List Int :=
  match classes[i]? with
  | none => []
  | some c =>
    ((c.generals.filterMap fun g => lastIndex? classes g.id).filter (· != i)).map Int.ofNat

/-- The numbers of the classes, each after those of its supertypes. -/
def classOrder (classes : List ClassDef) : Except AssemblyError (List Nat) :=
  match dependencyOrder classes.length (superIndices classes) with
  | .ok order => .ok order
  | .error (.cycle stuck) => .error (.cycle (stuck.filterMap fun i => (classes[i]?).map (·.name)))
  | .error (.outOfRange _ _) => .error (.cycle [])

/-- Identifiers and what has taken them, the latest first. -/
abbrev Taken := List (String × Named)

/-- Takes an identifier that is free. -/
def reserve (taken : Taken) (ident : String) (n : Named) : Except AssemblyError Taken :=
  match taken.lookup ident with
  | some earlier => .error (.clash n earlier ident)
  | none => .ok ((ident, n) :: taken)

/-- Takes the identifiers of names, one after the other. -/
def takeAll (kind : String → Named) : Taken → List String → Except AssemblyError Taken
  | taken, [] => .ok taken
  | taken, name :: names => do
    let taken ← reserve taken (identifierFor name) (kind name)
    takeAll kind taken names

/-- The names of what is declared in a file. -/
structure Scope where
  classes : List String
  enumerations : List String
deriving DecidableEq, Repr

namespace Scope

def class? (s : Scope) (name : String) : Option String :=
  if s.classes.contains name then some (identifierFor name) else none

def enumeration? (s : Scope) (name : String) : Option String :=
  if s.enumerations.contains name then some (identifierFor name) else none

end Scope

/-! ## Properties -/

/-- Bounds, unless they are those that a property has anyhow: zero and `upper`. -/
def boundsSetting (upper : String) (m : Multiplicity) : List Setting :=
  if m.lower = "0" ∧ m.upper = upper then [] else [.bounds m.lower m.upper]

/-- The shape of an attribute: values of an enumeration if that is declared. -/
def attributeShape (s : Scope) (a : Attribute) : Shape :=
  match a.enumeration.bind s.enumeration? with
  | some e => .enumeration e
  | none => .attribute a.type

def attributeTerm (s : Scope) (a : Attribute) : PropertyTerm where
  name := a.name
  shape := attributeShape s a
  settings :=
    boundsSetting "1" a.bounds ++ a.default?.toList.map .default ++
      (if a.source = .derived then [.derived] else [])

def endTerm (e : End) (shape : Shape) : PropertyTerm where
  name := e.name
  shape
  settings :=
    boundsSetting "*" e.bounds ++ (if e.composite then [.composite] else [])

/-- The name of the other end, if it can be navigated to and has one. -/
def oppositeSetting (tail? : Option End) : List Setting :=
  match tail? with
  | some t => if t.navigable ∧ t.name ≠ "" then [.opposite t.name] else []
  | none => []

def associationTerm (head : End) (tail? : Option End) (type : String) : PropertyTerm :=
  let t := endTerm head (.association type)
  { t with settings := t.settings ++ oppositeSetting tail? }

/-- What has been declared so far. -/
structure Members where
  /-- The qualified names of the properties. -/
  declared : List String := []
  properties : List AddStatement := []
  omissions : List Omission := []
deriving DecidableEq, Repr

namespace Members

def leaveOut (m : Members) (o : Omission) : Members := { m with omissions := m.omissions ++ [o] }

/-- Declares a property unless its class is missing or has a property of that name. -/
def add (s : Scope) (m : Members) (className : String) (term : PropertyTerm)
    (simple : Bool) : Members :=
  match s.class? className with
  | none => m.leaveOut (.propertyOfNoClass className term.name)
  | some owner =>
    let qualified := className ++ "." ++ term.name
    if m.declared.contains qualified then m.leaveOut (.repeated qualified)
    else
      { m with
        declared := m.declared ++ [qualified]
        properties := m.properties ++ [{ owner, term, simple }] }

def addAttribute (s : Scope) (m : Members) (a : Attribute) : Members :=
  m.add s a.className (attributeTerm s a) (a.source == .simple)

/-- Declares an end, of which `term` makes a property, unless its type is missing. -/
def addEnd (s : Scope) (m : Members) (e : End) (term : String → PropertyTerm) : Members :=
  match s.class? e.typeName with
  | none => m.leaveOut (.noType e.qualified e.typeName)
  | some type => m.add s e.className (term type) false

def addAssociation (s : Scope) (m : Members) (a : End × Option End) : Members :=
  m.addEnd s a.1 (associationTerm a.1 a.2)

def addRedefinition (s : Scope) (m : Members) (e : End) : Members :=
  m.addEnd s e fun type => endTerm e (.redefinition type e.redefines)

def addUnion (s : Scope) (m : Members) (u : DerivedUnion) : Members :=
  m.addEnd s u.toEnd fun type => endTerm u.toEnd (.derivedUnion type)

/-- All properties of a recording: attributes, associations, redefinitions, derived unions. -/
def ofRecording (s : Scope) (r : Recording) : Members :=
  let m := r.attributes.foldl (addAttribute s) {}
  let m := r.associations.foldl (addAssociation s) m
  let m := r.redefinitions.foldl (addRedefinition s) m
  r.unions.foldl (addUnion s) m

end Members

/-! ## Subsets and operations -/

def lookupOf (s : Scope) (e : End) : PropertyLookup where
  owner := (s.class? e.className).getD ""
  name := e.name

/-- The declared members of a derived union that is declared itself. -/
def subsetsOf (s : Scope) (declared : List String) (u : DerivedUnion) : List SubsetsStatement :=
  let members := u.members.filter fun e => declared.contains e.qualified
  if declared.contains u.toEnd.qualified ∧ !members.isEmpty then
    [{ union := lookupOf s u.toEnd, members := members.map (lookupOf s) }]
  else []

/-- The members that a declared union lacks because they are not declared. -/
def missingMembers (declared : List String) (u : DerivedUnion) : List Omission :=
  if declared.contains u.toEnd.qualified then
    (u.members.filter fun e => !declared.contains e.qualified).map fun e =>
      .noMember e.qualified u.toEnd.qualified
  else []

def operationOf (s : Scope) (o : ClassOperation) : Except Omission OperationStatement :=
  match s.class? o.className with
  | none => .error (.operationOfNoClass o.className o.name)
  | some owner => .ok { owner, name := o.name }

def operationStatement? (s : Scope) (o : ClassOperation) : Option OperationStatement :=
  (operationOf s o).toOption

def missingOperation? (s : Scope) (o : ClassOperation) : Option Omission :=
  match operationOf s o with
  | .error e => some e
  | .ok _ => none

/-! ## Files -/

def classDecl (s : Scope) (c : ClassDef) : ClassDecl where
  ident := identifierFor c.name
  name := c.name
  generals := c.generals.filterMap fun g => s.class? g.name

def enumerationDecl (e : Enumeration) : EnumerationDecl where
  ident := identifierFor e.name
  name := e.name
  literals := e.literals

/-- The file for classes that are in order and for all else that is recorded. -/
def assembled (t : Target) (header : String) (r : Recording) (classes : List ClassDef) : File :=
  let s : Scope :=
    { classes := classes.map (·.name), enumerations := r.enumerations.map (·.name) }
  let m := Members.ofRecording s r
  { header
    package := t.package
    qualifier := qualifierOf t.runtime
    runtime := t.runtime
    notices := if t.comments then r.comments.map Text.oneLine else []
    classes := classes.map (classDecl s)
    enumerations := r.enumerations.map enumerationDecl
    properties := m.properties
    subsets := r.unions.flatMap (subsetsOf s m.declared)
    operations := r.operations.filterMap (operationStatement? s)
    omissions :=
      m.omissions ++ r.unions.flatMap (missingMembers m.declared) ++
        r.operations.filterMap (missingOperation? s) }

/-- The file for a recording, whose classes and enumerations need identifiers of their own. -/
def assemble (t : Target) (header : String) (r : Recording) : Except AssemblyError File := do
  if qualifierOf t.runtime = "" then throw .noRuntime
  let order ← classOrder r.classes
  let classes := order.filterMap fun i => r.classes[i]?
  let taken : Taken := [("init", .initFunction), (qualifierOf t.runtime, .runtime)]
  let taken ← takeAll .structural taken (classes.map (·.name))
  let _ ← takeAll .enumeration taken (r.enumerations.map (·.name))
  return assembled t header r classes

end ModelCompiler.Source
