import Mathlib.Data.List.Nodup
import ModelCompiler.Plan.Resolve

/-!
# Collecting the members of derived unions

Members are appended one by one, each through the index of the names of unions.  What is appended
or warned of depends on these names only, and they stay: so a run over all ends comes to the members
that a filter by name gives, if no two unions have one name, and to warnings of the subsettings that
name no union.  That no two unions have one name is kept by whatever adds to a plan.
-/

namespace ModelCompiler

/-- The subsettings of ends that refer to a retained class, in order. -/
def subsettings (retained : List Class) (ends : List End) : List Subsetting :=
  (ends.filter fun e => retained.any (·.id == e.typeId)).flatMap fun e =>
    e.subsets.map fun s => { member := e, union := s }

namespace Plan

theorem flatMap_filter {α β : Type} (l : List α) (p : α → Bool) (f : α → List β) :
    (l.filter p).flatMap f = l.flatMap fun a => if p a then f a else [] := by
  induction l with
  | nil => rfl
  | cons a l ih => by_cases h : p a <;> simp [h, ih]

end Plan

theorem subsettings_cons (retained : List Class) (e : End) (ends : List End) :
    subsettings retained (e :: ends) =
      (if retained.any (·.id == e.typeId) then e.subsets.map fun s => { member := e, union := s }
        else []) ++ subsettings retained ends := by
  rw [subsettings, Plan.flatMap_filter, List.flatMap_cons, ← Plan.flatMap_filter]
  rfl

namespace DerivedUnion

/-- The union with more members. -/
def gaining (u : DerivedUnion) (es : List End) : DerivedUnion :=
  { u with members := u.members ++ es }

@[simp] theorem toEnd_gaining (u : DerivedUnion) (es : List End) :
    (u.gaining es).toEnd = u.toEnd := rfl

theorem gaining_nil (u : DerivedUnion) : u.gaining [] = u := by
  rw [gaining, List.append_nil]

theorem gaining_gaining (u : DerivedUnion) (es es' : List End) :
    (u.gaining es).gaining es' = u.gaining (es ++ es') := by
  simp [gaining]

end DerivedUnion

namespace Collection

variable (c : Collection)

/-! ## One subsetting -/

theorem toEnd_add (s : Subsetting) :
    (c.add s).unions.map (·.toEnd) = c.unions.map (·.toEnd) := by
  rw [add]
  split
  · apply List.ext_getElem?
    intro j
    simp only [List.getElem?_map, List.getElem?_modify]
    cases c.unions[j]? with
    | none => rfl
    | some u =>
      simp only [Option.map_some, Option.map_eq_map]
      split <;> rfl
  · rfl

theorem names_add (s : Subsetting) : (c.add s).names = c.names := by
  have same := congrArg (List.map End.name) (c.toEnd_add s)
  rwa [List.map_map, List.map_map] at same

theorem journal_add (s : Subsetting) : (c.add s).journal =
    if s.union ∈ c.names then c.journal else s.unknownUnion c.names c.journal := by
  rw [add]
  split
  · rename_i i found
    obtain ⟨hi, named, -⟩ := List.idxOf?_eq_some_iff.1 found
    rw [if_pos (named ▸ List.getElem_mem hi)]
  · rename_i missing
    rw [if_neg (List.idxOf?_eq_none_iff.1 missing)]

/-- If there is one union for a name, the one of the name gains the member. -/
theorem unions_add (distinct : c.names.Nodup) (s : Subsetting) :
    (c.add s).unions = c.unions.map fun u =>
      u.gaining (if u.toEnd.name = s.union then [s.member] else []) := by
  rw [add]
  split
  · rename_i i found
    obtain ⟨hi, named, -⟩ := List.idxOf?_eq_some_iff.1 found
    apply List.ext_getElem?
    intro j
    rw [List.getElem?_map, List.getElem?_modify]
    cases hj : c.unions[j]? with
    | none => rfl
    | some u =>
      have place : c.names[j]? = some u.toEnd.name := by
        rw [names, List.getElem?_map, hj]
        rfl
      obtain ⟨hlt, name⟩ := List.getElem?_eq_some_iff.1 place
      by_cases same : i = j
      · subst same
        rw [named] at name
        simp [name, DerivedUnion.gaining]
      · have other : u.toEnd.name ≠ s.union := by
          rw [← name, ← named]
          exact fun eq => same ((distinct.getElem_inj_iff).1 eq).symm
        simp [same, other, DerivedUnion.gaining_nil]
  · rename_i missing
    have none : ∀ u ∈ c.unions, u.toEnd.name ≠ s.union := by
      intro u hu same
      exact List.idxOf?_eq_none_iff.1 missing (List.mem_map.2 ⟨u, hu, same⟩)
    symm
    refine (List.map_congr_left fun u hu => ?_).trans (List.map_id _)
    rw [if_neg (none u hu), DerivedUnion.gaining_nil]
    rfl

/-! ## All subsettings -/

theorem toEnd_foldl_add (l : List Subsetting) :
    (l.foldl add c).unions.map (·.toEnd) = c.unions.map (·.toEnd) := by
  induction l generalizing c with
  | nil => rfl
  | cons s l ih => rw [List.foldl_cons, ih, toEnd_add]

theorem journal_foldl_add (l : List Subsetting) : (l.foldl add c).journal =
    (l.filter (!c.names.contains ·.union)).foldl (fun j s => s.unknownUnion c.names j)
      c.journal := by
  induction l generalizing c with
  | nil => rfl
  | cons s l ih =>
    rw [List.foldl_cons, ih, names_add, journal_add]
    by_cases known : s.union ∈ c.names
    · rw [if_pos known, List.filter_cons_of_neg (by simpa using known)]
    · rw [if_neg known, List.filter_cons_of_pos (by simpa using known)]
      rfl

theorem unions_foldl_add (distinct : c.names.Nodup) (l : List Subsetting) :
    (l.foldl add c).unions = c.unions.map fun u =>
      u.gaining ((l.filter (·.union == u.toEnd.name)).map (·.member)) := by
  induction l generalizing c with
  | nil =>
    simp only [List.foldl_nil, List.filter_nil, List.map_nil, DerivedUnion.gaining_nil,
      List.map_id']
  | cons s l ih =>
    rw [List.foldl_cons, ih _ (by rwa [names_add]), c.unions_add distinct, List.map_map]
    apply List.map_congr_left
    intro u _
    rw [Function.comp_apply, DerivedUnion.toEnd_gaining, DerivedUnion.gaining_gaining]
    by_cases same : u.toEnd.name = s.union
    · rw [if_pos same, List.filter_cons_of_pos (by simp [same])]
      rfl
    · rw [if_neg same, List.filter_cons_of_neg (by simpa using Ne.symm same), List.nil_append]

/-- Going through the ends is going through their subsettings. -/
theorem foldl_addEnd (retained : List Class) (ends : List End) :
    ends.foldl (addEnd retained) c = (subsettings retained ends).foldl add c := by
  induction ends generalizing c with
  | nil => rfl
  | cons e ends ih =>
    rw [List.foldl_cons, ih, addEnd, subsettings_cons, List.foldl_append]
    by_cases known : retained.any (·.id == e.typeId)
    · simp only [if_pos known, List.foldl_map]
    · simp only [if_neg known, List.foldl_nil]
      congr 1
      exact List.foldlRecOn e.subsets _ (motive := (· = c)) rfl fun _ same _ _ => same

end Collection

namespace Plan

variable (p : Plan)

/-! ## Plans -/

theorem toEnd_derivedUnions_collectUnions :
    p.collectUnions.derivedUnions.map (·.toEnd) = p.derivedUnions.map (·.toEnd) := by
  simp only [collectUnions, Collection.foldl_addEnd, Collection.toEnd_foldl_add]

/-- Warnings are for the subsettings of no union, in order. -/
theorem journal_collectUnions : p.collectUnions.journal =
    ((subsettings p.classes p.ends).filter (!p.unionNames.contains ·.union)).foldl
      (fun j s => s.unknownUnion p.unionNames j) p.journal := by
  simp only [collectUnions, Collection.foldl_addEnd, Collection.journal_foldl_add]
  rfl

/-- The members of a union are the ends of the subsettings of its name, in order. -/
theorem derivedUnions_collectUnions (distinct : p.unionNames.Nodup) :
    p.collectUnions.derivedUnions = p.derivedUnions.map fun u =>
      u.gaining (((subsettings p.classes p.ends).filter (·.union == u.toEnd.name)).map
        (·.member)) := by
  simp only [collectUnions, Collection.foldl_addEnd]
  exact Collection.unions_foldl_add { unions := p.derivedUnions, journal := p.journal } distinct _

end Plan

end ModelCompiler
