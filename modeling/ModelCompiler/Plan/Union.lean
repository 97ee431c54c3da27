import ModelCompiler.Naming.Ranking
import ModelCompiler.Plan.Basic

/-! # Members of derived unions -/

namespace ModelCompiler

/-- An end and the name of a union that it subsets. -/
structure Subsetting where
  member : End
  union : String
deriving DecidableEq, Repr

namespace Subsetting

def subject (s : Subsetting) : String := s.member.className ++ "." ++ s.union

/-- The warning that there is no such union, and the name that was meant if one stands out. -/
def unknownUnion (names : List String) (s : Subsetting) (j : Journal) : Journal :=
  let warned := j.add
    { severity := .warning
      code := "not_derived_union"
      message := "not a derived union: " ++ s.subject
      element := s.member.property
      subject := s.subject }
  match Naming.suggest? s.union names with
  | none => warned
  | some n => warned.inform "suggestion" ("did you mean " ++ n ++ "?") s.member.property s.subject

end Subsetting

/-- The derived unions with the members that they have so far. -/
structure Collection where
  unions : List DerivedUnion
  journal : Journal := {}

namespace Collection

def names (c : Collection) : List String := c.unions.map (·.toEnd.name)

/-- Appends an end to the union that it subsets, or warns that there is none of that name. -/
def add (c : Collection) (s : Subsetting) : Collection :=
  match c.names.idxOf? s.union with
  | some i =>
    { c with unions := c.unions.modify i fun u => { u with members := u.members ++ [s.member] } }
  | none => { c with journal := s.unknownUnion c.names c.journal }

/-- Goes through the unions that an end subsets. Only an end that refers to a retained class takes
part. -/
def addEnd (retained : List Class) (c : Collection) (e : End) : Collection :=
  e.subsets.foldl (fun c s =>
    if retained.any (·.id == e.typeId) then c.add { member := e, union := s } else c) c

end Collection

namespace Plan

def unionNames (p : Plan) : List String := p.derivedUnions.map (·.toEnd.name)

/-- Gives every derived union the ends that subset it, and warns of the subsettings of no union. -/
def collectUnions (p : Plan) : Plan :=
  let c := p.ends.foldl (Collection.addEnd p.classes)
    { unions := p.derivedUnions, journal := p.journal }
  { p with derivedUnions := c.unions, journal := c.journal }

end Plan

end ModelCompiler
