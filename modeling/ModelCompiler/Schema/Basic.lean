import ModelCompiler.Schema.Property

/-! # Schemas: classes and the properties declared on them -/

namespace ModelCompiler.Schema

/-- A class with the properties and operations declared on it, in order. -/
structure Class where
  name : String
  generals : List ClassId := []
  properties : List PropertyId := []
  operations : List String := []
deriving DecidableEq, Repr

end Schema

/-- Classes and properties by the order of their making. -/
structure Schema where
  classes : List Schema.Class := []
  properties : List Schema.Property := []
deriving DecidableEq, Repr

namespace Schema

/-- Why a declaration is refused. -/
inductive Refusal where
  | declaredTwice (className name : String)
  | noUnion
  | notUnion (qualified : String)
deriving DecidableEq, Repr

def Refusal.message : Refusal → String
  | .declaredTwice className name => "properties: " ++ className ++ "." ++ name ++ " declared twice"
  | .noUnion => "properties: subsets of an undeclared derived union"
  | .notUnion qualified => "properties: " ++ qualified ++ " is not a derived union"

def class? (s : Schema) (c : ClassId) : Option Class := s.classes[c]?

def property? (s : Schema) (p : PropertyId) : Option Property := s.properties[p]?

def className (s : Schema) (c : ClassId) : String := ((s.class? c).map (·.name)).getD ""

def generals (s : Schema) (c : ClassId) : List ClassId := ((s.class? c).map (·.generals)).getD []

/-- The properties declared on a class, in order. -/
def declared (s : Schema) (c : ClassId) : List PropertyId :=
  ((s.class? c).map (·.properties)).getD []

/-- The property of a name that is declared on a class itself. -/
def own? (s : Schema) (c : ClassId) (name : String) : Option PropertyId :=
  (s.declared c).find? fun p => (s.property? p).any (·.name == name)

/-- The name of the owner and of the property, or the name alone before there is an owner. -/
def qualified (s : Schema) (p : Property) : String :=
  match p.owner? with
  | none => p.name
  | some c => s.className c ++ "." ++ p.name

def describe (s : Schema) (p : Property) : String :=
  p.kind.label ++ " " ++ s.qualified p ++ " [" ++ p.bounds.text ++ "]"

/-! ## Declarations -/

/-- A schema with one more class, and that class. -/
def makeClass (s : Schema) (name : String) (generals : List ClassId) : Schema × ClassId :=
  ({ s with classes := s.classes ++ [{ name, generals }] }, s.classes.length)

/-- A schema with one more property, and that property. -/
def makeProperty (s : Schema) (t : Construction) : Schema × PropertyId :=
  ({ s with properties := s.properties ++ [t.property] }, s.properties.length)

/-- Declares a property on a class, which then owns it. A class declares a name once. -/
def add (s : Schema) (c : ClassId) (p : PropertyId) : Except Refusal Schema :=
  let name := ((s.property? p).map (·.name)).getD ""
  if (s.own? c name).isSome then .error (.declaredTwice (s.className c) name)
  else .ok
    { classes := s.classes.modify c fun k => { k with properties := k.properties ++ [p] }
      properties := s.properties.modify p ({ · with owner? := some c }) }

def addOperation (s : Schema) (c : ClassId) (name : String) : Schema :=
  { s with classes := s.classes.modify c fun k => { k with operations := k.operations ++ [name] } }

/-- Adds members to a derived union; what is no property is left out. -/
def subset (s : Schema) (union? : Option PropertyId) (members : List (Option PropertyId)) :
    Except Refusal Schema :=
  match union? with
  | none => .error .noUnion
  | some u => match s.property? u with
    | none => .error .noUnion
    | some p =>
      if p.kind ≠ .derivedUnion then .error (.notUnion (s.qualified p))
      else .ok
        { s with properties := s.properties.modify u fun q =>
            { q with subsets := q.subsets ++ members.filterMap id } }

/-! ## Lookup -/

/-- What a search has visited and found. -/
structure Search where
  seen : List ClassId := []
  found : Option PropertyId := none
deriving DecidableEq, Repr

/-- Searches a class and then its supertypes, depth first, each class once. No path of classes that
have not been seen is longer than `fuel`. -/
def search (s : Schema) (name : String) : Nat → ClassId → Search → Search
  | 0, _, r => r
  | fuel + 1, c, r =>
    if r.seen.contains c then r
    else
      let r := { r with seen := c :: r.seen }
      match s.own? c name with
      | some p => { r with found := some p }
      | none => (s.generals c).foldl (fun r g =>
          if r.found.isSome then r else search s name fuel g r) r

/-- The property of a name that a class has, be it its own or inherited. -/
def lookup? (s : Schema) (c : ClassId) (name : String) : Option PropertyId :=
  (s.search name (s.classes.length + 1) c {}).found

/-- Whether a class is another one or lies below it, along at most `fuel` generalizations. -/
def isBelow (s : Schema) (other : ClassId) : Nat → ClassId → Bool
  | 0, c => c == other
  | fuel + 1, c => c == other || (s.generals c).any (isBelow s other fuel)

def isSubclass (s : Schema) (c other : ClassId) : Bool := s.isBelow other s.classes.length c

/-- The inherited property that a redefinition stands for. -/
def redefined? (s : Schema) (p : Property) : Option PropertyId :=
  match p.kind, p.owner? with
  | .redefinition, some c => (s.generals c).findSome? (s.lookup? · p.redefines)
  | _, _ => none

end Schema

end ModelCompiler
