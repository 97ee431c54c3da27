import ModelCompiler.Diagnostic.Journal
import ModelCompiler.Model.Basic

/-! # Stereotypes and their way down the hierarchy

A class with an applied stereotype hands it down to every class below it. The walk down goes depth
first, visits every class once and stops at a class that lies on the way to itself. -/

namespace ModelCompiler

/-- A class that specializes itself through one of its subtypes. -/
structure Cycle where
  child : String
  parent : String
deriving DecidableEq, Repr

/-- The classes visited so far, in order, and the cycle that ended the walk, if one did. -/
structure Walk where
  seen : List ClassRef := []
  cycle : Option Cycle := none
deriving DecidableEq, Repr

namespace Walk

/-- Visits what lies below `parent`, which was reached along `path`; `fuel` bounds the depth. -/
def below (next : String → List ClassRef) : Nat → List String → ClassRef → Walk → Walk
  | 0, _, _, w => w
  | fuel + 1, path, parent, w =>
    (next parent.id).foldl (fun w child =>
      if w.cycle.isSome then w
      else if (parent.id :: path).contains child.id then
        { w with cycle := some ⟨child.name, parent.name⟩ }
      else if w.seen.any (·.id == child.id) then w
      else below next fuel (parent.id :: path) child { w with seen := w.seen ++ [child] }) w

/-- The walk from a class over all that lies below it; no path is longer than `size`. -/
def startingAt (next : String → List ClassRef) (size : Nat) (root : ClassRef) : Walk :=
  below next size [] root { seen := [root] }

end Walk

namespace Model

/-- The name of the stereotype applied to a class: that of the first classifier of the first
applied instance. -/
def stereotypeName? (m : Model) (c : Class) : Option String := do
  let applied ← (c.appliedStereotypes.filterMap m.graph.get?).head?
  let classifier ← m.graph.resolveFirst? applied "classifier"
  if classifier.name = "" then none else some classifier.name

/-- The walk over a class and all classes below it. -/
def walkFrom (m : Model) (root : ClassRef) : Walk :=
  Walk.startingAt m.specials m.classes.length root

end Model

/-- A class whose applied stereotype has no name. -/
def Class.unknownStereotype (c : Class) : Diagnostic where
  severity := .warning
  code := "unknown_stereotype"
  message := "class '" ++ c.name ++ "' has an applied stereotype without classifier"
  element := c.id
  subject := c.name

/-- Stereotypes on their way down, with the cycle that stopped them, if one did. -/
structure Propagation where
  stereotypes : List (String × String)
  journal : Journal
  cycle : Option Cycle := none
deriving DecidableEq, Repr

namespace Propagation

/-- Gives a stereotype to the classes of a walk: the root and those below it. -/
def tag (p : Propagation) (root : Class) (name : String) (w : Walk) : Propagation where
  stereotypes := (w.seen.map fun c => (c.id, name)).reverse ++ p.stereotypes
  journal :=
    let told := (p.journal.comment
        ("class '" ++ root.name ++ "' has been stereotyped as '" ++ name ++ "'")).inform
      "stereotype" ("stereotyped as '" ++ name ++ "'") root.id root.name
    (w.seen.drop 1).foldl (fun j c =>
      j.comment ("class '" ++ c.name ++ "' has been stereotyped as '" ++ name ++ "' too")) told
  cycle := w.cycle

/-- Hands down the stereotype of one class. -/
def visit (m : Model) (p : Propagation) (c : Class) : Propagation :=
  if p.cycle.isSome ∨ c.appliedStereotypes.isEmpty then p
  else match m.stereotypeName? c with
    | none => { p with journal := p.journal.add c.unknownStereotype }
    | some name => p.tag c name (m.walkFrom c.toClassRef)

end Propagation

namespace Model

/-- Hands down the stereotypes of all classes, in document order. -/
def propagate (m : Model) (j : Journal) : Propagation :=
  m.classes.foldl (Propagation.visit m) { stereotypes := m.stereotypes, journal := j }

end Model

end ModelCompiler
