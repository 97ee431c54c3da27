import ModelCompiler.Element.Graph

/-! # Sessions: a graph and elements that change over time

Elements and the graph keep tables by name, the latest entry first, and beside each table a list of
its names in the order of their entry.  References are looked up once and remembered on the element
until its field is set again. -/

namespace ModelCompiler

/-- An element under construction: the values of its fields, the names of the fields in the order in
which they were first set, and the elements that have been found for a field. -/
structure Cell where
  id : String
  type : String
  fields : List (String × Field) := []
  order : List String := []
  resolved : List (String × List Nat) := []
deriving DecidableEq, Repr

namespace Cell

def field (c : Cell) (name : String) : Field := (c.fields.lookup name).getD .absent

/-- Setting a field forgets what was looked up for it. -/
def set (c : Cell) (name : String) (f : Field) : Cell :=
  { c with
    order := if (c.fields.lookup name).isSome then c.order else c.order ++ [name]
    fields := (name, f) :: c.fields
    resolved := c.resolved.filter (·.1 != name) }

/-- The element, with its fields in order. -/
def element (c : Cell) : Element where
  id := c.id
  type := c.type
  fields := c.order.map fun name => (name, c.field name)

end Cell

/-- The elements made so far, by the order of their making, the table of those that are in the graph
and their identifiers, by the order of their joining. -/
structure Session where
  cells : List Cell := []
  known : List (String × Nat) := []
  ids : List String := []
deriving DecidableEq, Repr

/-- What can be done in a session. An element is named by the number of elements made before it. -/
inductive SessionEvent where
  | make (id type : String)
  | set (element : Nat) (name : String) (f : Field)
  | add (element : Nat)
  | resolve (element : Nat) (name : String)
  | resolveFirst (element : Nat) (name : String)
deriving DecidableEq, Repr

namespace Session

def cell? (s : Session) (n : Nat) : Option Cell := s.cells[n]?

/-- The element of the graph with an identifier. -/
def member? (s : Session) (id : String) : Option Nat := s.known.lookup id

def get? (s : Session) (id : String) : Option Cell := (s.member? id).bind s.cell?

/-- The elements of the graph, in order. -/
def elements (s : Session) : List Element :=
  s.ids.filterMap fun id => (s.get? id).map Cell.element

def make (s : Session) (id type : String) : Session :=
  { s with cells := s.cells ++ [{ id, type }] }

def set (s : Session) (n : Nat) (name : String) (f : Field) : Session :=
  { s with cells := s.cells.modify n (·.set name f) }

/-- The session after an element has been asked to join the graph, and why it cannot if it
cannot. -/
def add (s : Session) (n : Nat) : Session × Option AddError :=
  match s.cell? n with
  | none => (s, none)
  | some c =>
    if c.id = "" then (s, some (.noId c.type))
    else if (s.member? c.id).isSome then (s, some (.duplicateId c.id))
    else ({ s with known := (c.id, n) :: s.known, ids := s.ids ++ [c.id] }, none)

/-- The elements that a field refers to and that are in the graph now. -/
def deref (s : Session) (c : Cell) (name : String) : List Nat :=
  (c.field name).targets.filterMap s.member?

/-- What was looked up for a field, if anything was. -/
def resolved? (s : Session) (n : Nat) (name : String) : Option (List Nat) :=
  (s.cell? n).bind (·.resolved.lookup name)

/-- Looks up a field, or recalls what was found the last time. -/
def resolve (s : Session) (n : Nat) (name : String) : Session × List Nat :=
  match s.cell? n with
  | none => (s, [])
  | some c =>
    match c.resolved.lookup name with
    | some found => (s, found)
    | none =>
      let found := s.deref c name
      ({ s with
          cells := s.cells.modify n fun c => { c with resolved := (name, found) :: c.resolved } },
        found)

/-- Looks up a field as `resolve` does, for the first element alone. -/
def resolveFirst (s : Session) (n : Nat) (name : String) : Session × Option Nat :=
  let (t, found) := s.resolve n name
  (t, found.head?)

/-- The session after one event. -/
def step (s : Session) : SessionEvent → Session
  | .make id type => s.make id type
  | .set n name f => s.set n name f
  | .add n => (s.add n).1
  | .resolve n name => (s.resolve n name).1
  | .resolveFirst n name => (s.resolveFirst n name).1

def run (s : Session) (events : List SessionEvent) : Session := events.foldl step s

end Session

end ModelCompiler
