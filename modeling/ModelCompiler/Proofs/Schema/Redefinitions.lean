import Mathlib.Order.WellFounded
import ModelCompiler.Proofs.Schema.Lookup

/-!
# Redefinitions point upwards

A schema is made one call after the other: classes over classes that exist, properties, and
declarations of properties that no class owns.  What such calls keep is `WellFormed`: a class is
made after its supertypes, and the properties declared on a class are its own.  Main statement: the
test for subclasses comes to an end and follows the generalizations, a property that is found lies
at or above the class that was asked, and a redefinition stands for a property strictly above its
owner, so that going from redefinitions to what they stand for comes to an end as well.
-/

namespace ModelCompiler.Schema

open Relation

/-! ## Schemas as they are made -/

/-- One call on a schema. A property is declared on one class at most. -/
inductive Step : Schema → Schema → Prop
  | makeClass {s : Schema} (name : String) (generals : List ClassId) :
      (∀ g ∈ generals, g < s.classes.length) → Step s (s.makeClass name generals).1
  | makeProperty {s : Schema} (t : Construction) : Step s (s.makeProperty t).1
  | add {s s' : Schema} {c : ClassId} {p : PropertyId} {q : Property} : c < s.classes.length →
      s.property? p = some q → q.owner? = none → s.add c p = .ok s' → Step s s'
  | addOperation {s : Schema} (c : ClassId) (name : String) : Step s (s.addOperation c name)
  | subset {s s' : Schema} {union? : Option PropertyId} {members : List (Option PropertyId)} :
      s.subset union? members = .ok s' → Step s s'

/-- The schema is made by calls, beginning with none. -/
def Built (s : Schema) : Prop := ReflTransGen Step {} s

/-- What the calls keep. -/
structure WellFormed (s : Schema) : Prop where
  /-- A class is made after its supertypes. -/
  generals_lt : ∀ c, ∀ g ∈ s.generals c, g < c
  /-- What is declared on a class is owned by it. -/
  owner_of_declared : ∀ c, ∀ p ∈ s.declared c, ∃ q, s.property? p = some q ∧ q.owner? = some c

variable {s s' : Schema} {c d other : ClassId} {p o : PropertyId} {q : Property} {name : String}

theorem class?_makeClass (s : Schema) (name : String) (generals : List ClassId) (c : ClassId) :
    (s.makeClass name generals).1.class? c =
      if c = s.classes.length then some { name, generals } else s.class? c := by
  rcases lt_trichotomy c s.classes.length with inside | rfl | outside
  · rw [if_neg inside.ne]
    exact List.getElem?_append_left inside
  · rw [if_pos rfl]
    exact List.getElem?_concat_length
  · rw [if_neg outside.ne', class?, class?, List.getElem?_eq_none outside.le]
    refine List.getElem?_eq_none ?_
    rw [makeClass, List.length_append]
    exact outside

theorem property?_makeProperty (t : Construction) (h : s.property? p = some q) :
    (s.makeProperty t).1.property? p = some q := by
  obtain ⟨inside, -⟩ := List.getElem?_eq_some_iff.1 h
  rw [← h]
  exact List.getElem?_append_left inside

/-- A declaration puts a property at the end of those of a class, which then owns it. -/
theorem of_add (h : s.add c p = .ok s') :
    (∀ d, s'.generals d = s.generals d) ∧
      (∀ d, ∀ i ∈ s'.declared d, i ∈ s.declared d ∨ i = p ∧ d = c) ∧
      ∀ i, s'.property? i =
        if p = i then (s.property? i).map ({ · with owner? := some c }) else s.property? i := by
  simp only [add] at h
  split at h
  · cases h
  · cases h
    refine ⟨fun d => ?_, fun d i hi => ?_, fun i => ?_⟩
    · by_cases same : c = d <;>
        simp [generals, class?, same, Function.comp_def]
    · by_cases same : c = d
      · subst same
        cases found : s.classes[c]? with
        | none => simp [declared, class?, found] at hi
        | some k => simpa [declared, class?, List.getElem?_modify, found] using hi
      · left
        simpa [declared, class?, List.getElem?_modify, same] using hi
    · rw [property?, property?, List.getElem?_modify]
      split <;> simp

/-- Members of derived unions change neither names nor owners. -/
theorem of_subset {union? : Option PropertyId} {members : List (Option PropertyId)}
    (h : s.subset union? members = .ok s') :
    s'.classes = s.classes ∧
      ∀ i, (s'.property? i).map (·.owner?) = (s.property? i).map (·.owner?) := by
  simp only [subset] at h
  split at h
  · cases h
  · split at h
    · cases h
    · split at h
      · cases h
      · cases h
        refine ⟨rfl, fun i => ?_⟩
        rw [property?, property?, List.getElem?_modify]
        split <;> simp [Function.comp_def]

namespace WellFormed

theorem empty : WellFormed {} where
  generals_lt := by simp [generals, class?]
  owner_of_declared := by simp [declared, class?]

theorem step (h : s.WellFormed) (call : Step s s') : s'.WellFormed := by
  cases call with
  | makeClass name generals existing =>
    refine ⟨fun c g hg => ?_, fun c p hp => ?_⟩
    · rw [Schema.generals, class?_makeClass] at hg
      split at hg
      next last => exact last ▸ existing g hg
      next => exact h.generals_lt c g hg
    · rw [declared, class?_makeClass] at hp
      split at hp
      next => cases hp
      next => exact h.owner_of_declared c p hp
  | makeProperty t =>
    refine ⟨h.generals_lt, fun c p hp => ?_⟩
    obtain ⟨q, hq, owned⟩ := h.owner_of_declared c p hp
    exact ⟨q, property?_makeProperty t hq, owned⟩
  | @add _ c p q _ made free done =>
    obtain ⟨sameGenerals, declared, properties⟩ := of_add done
    refine ⟨fun d g hg => h.generals_lt d g (sameGenerals d ▸ hg), fun d i hi => ?_⟩
    rw [properties]
    rcases declared d i hi with old | ⟨rfl, rfl⟩
    · obtain ⟨r, hr, owned⟩ := h.owner_of_declared d i old
      -- the property was free, so it is none of those that were declared before
      have fresh : p ≠ i := by
        rintro rfl
        rw [hr] at made
        cases made
        rw [owned] at free
        cases free
      exact ⟨r, (if_neg fresh).trans hr, owned⟩
    · exact ⟨_, by rw [if_pos rfl, made, Option.map_some], rfl⟩
  | addOperation c name =>
    have same (d : ClassId) : (s.addOperation c name).generals d = s.generals d ∧
        (s.addOperation c name).declared d = s.declared d := by
      by_cases at_d : c = d <;>
        simp [generals, declared, class?, Schema.addOperation, at_d, Function.comp_def]
    refine ⟨fun d g hg => h.generals_lt d g ((same d).1 ▸ hg), fun d i hi => ?_⟩
    exact h.owner_of_declared d i ((same d).2 ▸ hi)
  | subset done =>
    obtain ⟨classes, owners⟩ := of_subset done
    refine ⟨fun d g hg => h.generals_lt d g ?_, fun d i hi => ?_⟩
    · rwa [generals, class?, classes] at hg
    · rw [declared, class?, classes] at hi
      obtain ⟨q, hq, owned⟩ := h.owner_of_declared d i hi
      have owner := owners i
      rw [hq, Option.map_some, Option.map_eq_some_iff] at owner
      obtain ⟨r, hr, same⟩ := owner
      exact ⟨r, hr, same.trans owned⟩

theorem acyclic (h : s.WellFormed) : s.Acyclic := acyclic_of_lt h.generals_lt

theorem owner?_eq (h : s.WellFormed) (hp : p ∈ s.declared c) (hq : s.property? p = some q) :
    q.owner? = some c := by
  obtain ⟨r, hr, owned⟩ := h.owner_of_declared c p hp
  rwa [Option.some.inj (hq.symm.trans hr)]

end WellFormed

theorem Built.wellFormed (h : s.Built) : s.WellFormed := by
  induction h with
  | refl => exact .empty
  | tail _ call ih => exact ih.step call

/-! ## Subclasses -/

/-- Whether a class is another one or lies below it, going up without a bound. -/
def plainIsSubclass (s : Schema) (acyclic : s.Acyclic) (other c : ClassId) : Bool :=
  c == other || (s.generals c).attach.any fun g => plainIsSubclass s acyclic other g.1
termination_by acyclic.wellFounded.wrap c
decreasing_by exact g.2

theorem plainIsSubclass_iff (acyclic : s.Acyclic) (other c : ClassId) :
    s.plainIsSubclass acyclic other c = true ↔ ReflTransGen s.Specializes c other := by
  induction c using acyclic.wellFounded.induction with
  | _ c ih =>
    rw [plainIsSubclass, Bool.or_eq_true, beq_iff_eq, List.any_eq_true, ReflTransGen.cases_head_iff]
    refine or_congr_right ⟨?_, ?_⟩
    · rintro ⟨g, -, below⟩
      exact ⟨g.1, g.2, (ih g.1 g.2).1 below⟩
    · rintro ⟨g, hg, reached⟩
      exact ⟨⟨g, hg⟩, List.mem_attach _ _, (ih g hg).2 reached⟩

/-- The bound does not show where classes are made after their supertypes. -/
theorem isBelow_iff (made : ∀ c, ∀ g ∈ s.generals c, g < c) {fuel : Nat}
    (enough : ∀ g ∈ s.generals c, c ≤ fuel) :
    s.isBelow other fuel c = true ↔ ReflTransGen s.Specializes c other := by
  induction fuel generalizing c with
  | zero =>
    have top (g : ClassId) : ¬s.Specializes c g := fun hg =>
      Nat.not_lt_zero g ((made c g hg).trans_le (enough g hg))
    rw [isBelow, beq_iff_eq, ReflTransGen.cases_head_iff]
    exact (or_iff_left fun ⟨g, hg, _⟩ => top g hg).symm
  | succ fuel ih =>
    rw [isBelow, Bool.or_eq_true, beq_iff_eq, List.any_eq_true, ReflTransGen.cases_head_iff]
    refine or_congr_right (exists_congr fun g => and_congr_right fun hg => ih fun _ _ => ?_)
    exact Nat.le_of_lt_succ ((made c g hg).trans_le (enough g hg))

theorem WellFormed.isSubclass_iff (h : s.WellFormed) (c other : ClassId) :
    s.isSubclass c other = true ↔ ReflTransGen s.Specializes c other :=
  isBelow_iff h.generals_lt fun _ hg => (lt_length_of_mem_generals hg).le

/-! ## What is found, and what a redefinition stands for -/

/-- A property of the name is declared on the class itself. -/
def Declares (s : Schema) (c : ClassId) (name : String) : Prop :=
  ∃ p ∈ s.declared c, ∃ q, s.property? p = some q ∧ q.name = name

/-- The property that a property stands for if it is a redefinition. -/
def original? (s : Schema) (p : PropertyId) : Option PropertyId :=
  (s.property? p).bind s.redefined?

theorem any_name_iff :
    (s.property? p).any (·.name == name) = true ↔ ∃ q, s.property? p = some q ∧ q.name = name := by
  simp [Option.any_eq_true]

theorem own?_eq_none_iff : s.own? c name = none ↔ ¬s.Declares c name := by
  simp only [own?, List.find?_eq_none, any_name_iff, Declares, not_exists, not_and]

theorem of_own? (h : s.own? c name = some p) :
    p ∈ s.declared c ∧ ∃ q, s.property? p = some q ∧ q.name = name := by
  rw [own?] at h
  have named := List.find?_some h
  exact ⟨List.mem_of_find?_eq_some h, any_name_iff.1 named⟩

/-- What is found is declared, under its name, on a class that is reached. -/
theorem of_lookup? (h : s.lookup? c name = some p) :
    ∃ d, ReflTransGen s.Specializes c d ∧ p ∈ s.declared d ∧
      ∃ q, s.property? p = some q ∧ q.name = name := by
  obtain ⟨order, visits⟩ := s.exists_visits [] [c]
  rw [lookup?_eq visits] at h
  obtain ⟨d, hd, own⟩ := List.exists_of_findSome?_eq_some h
  exact ⟨d, visits.mem_iff.1 hd, of_own? own⟩

/-- A redefinition that is declared on a class stands for what the supertypes of the class have. -/
theorem WellFormed.original?_eq (h : s.WellFormed) (hp : p ∈ s.declared c)
    (hq : s.property? p = some q) (kind : q.kind = .redefinition) :
    s.original? p = (s.generals c).findSome? (s.lookup? · q.redefines) := by
  rw [original?, hq, Option.bind_some, redefined?, h.owner?_eq hp hq, kind]

/-- Only a redefinition that has an owner stands for something. -/
theorem of_original? (h : s.original? p = some o) :
    ∃ q c g, s.property? p = some q ∧ q.owner? = some c ∧ s.Specializes c g ∧
      s.lookup? g q.redefines = some o := by
  obtain ⟨q, hq, found⟩ := Option.bind_eq_some_iff.1 h
  rw [redefined?] at found
  split at found
  next owned =>
    obtain ⟨g, hg, below⟩ := List.exists_of_findSome?_eq_some found
    exact ⟨q, _, g, hq, owned, hg, below⟩
  next => cases found

/-- What a redefinition stands for is owned by a class strictly above its own. -/
theorem WellFormed.original?_above (h : s.WellFormed) (ho : s.original? p = some o) :
    ∃ q r c d, s.property? p = some q ∧ q.owner? = some c ∧ s.property? o = some r ∧
      r.name = q.redefines ∧ r.owner? = some d ∧ TransGen s.Specializes c d := by
  obtain ⟨q, c, g, hq, owned, hg, found⟩ := of_original? ho
  obtain ⟨d, reached, declared, r, hr, named⟩ := of_lookup? found
  exact ⟨q, r, c, d, hq, owned, hr, named, h.owner?_eq declared hr, .head' hg reached⟩

theorem WellFormed.original?_eq_none_iff (h : s.WellFormed) (hp : p ∈ s.declared c)
    (hq : s.property? p = some q) (kind : q.kind = .redefinition) :
    s.original? p = none ↔
      ∀ d, TransGen s.Specializes c d → ¬s.Declares d q.redefines := by
  simp only [h.original?_eq hp hq kind, List.findSome?_eq_none_iff, lookup?_eq_none_iff,
    own?_eq_none_iff]
  constructor
  · intro missing d above
    obtain ⟨g, hg, reached⟩ := TransGen.head'_iff.1 above
    exact missing g hg d reached
  · intro missing g hg d reached
    exact missing d (.head' hg reached)

/-- Owners move up from a redefinition to what it stands for, and so away from the classes that were
made last. -/
theorem WellFormed.wellFounded_original? (h : s.WellFormed) :
    WellFounded fun o p => s.original? p = some o := by
  let owner (p : PropertyId) : ClassId := ((s.property? p).bind (·.owner?)).getD 0
  refine Subrelation.wf ?_ (measure owner).wf
  intro o p ho
  obtain ⟨q, r, c, d, hq, owned, hr, -, owner', above⟩ := h.original?_above ho
  have lower : d < c := TransGen.trans_induction_on above (fun hg => h.generals_lt _ _ hg)
    fun _ _ first second => Nat.lt_trans second first
  change owner o < owner p
  simpa [owner, hq, hr, owned, owner'] using lower

/-- In a schema that is made by calls there are no cycles, so the test for subclasses, which has no
record of what it has seen, comes to an end, and it follows the generalizations. What is found under
a name has the name and is owned by a class at or above the one that was asked. A redefinition
stands for nothing if and only if no class strictly above its owner declares what it redefines; else
it stands for a property of that name on such a class, and going on from there comes to an end. -/
theorem redefinitions_point_upwards (built : s.Built) :
    ∃ acyclic : s.Acyclic,
      (∀ c other, s.isSubclass c other = s.plainIsSubclass acyclic other c ∧
        (s.isSubclass c other = true ↔ ReflTransGen s.Specializes c other)) ∧
      (∀ c name p, s.lookup? c name = some p → ∃ q d, s.property? p = some q ∧ q.name = name ∧
        q.owner? = some d ∧ s.isSubclass c d = true) ∧
      (∀ c p q, p ∈ s.declared c → s.property? p = some q → q.kind = .redefinition →
        (s.original? p = none ↔
          ∀ d, TransGen s.Specializes c d → ¬s.Declares d q.redefines) ∧
        ∀ o, s.original? p = some o → o ≠ p ∧ ∃ r d, s.property? o = some r ∧
          r.name = q.redefines ∧ r.owner? = some d ∧ TransGen s.Specializes c d) ∧
      WellFounded fun o p => s.original? p = some o := by
  have h := built.wellFormed
  refine ⟨h.acyclic, fun c other => ⟨?_, h.isSubclass_iff c other⟩, ?_, ?_,
    h.wellFounded_original?⟩
  · rw [Bool.eq_iff_iff, h.isSubclass_iff, plainIsSubclass_iff]
  · intro c name p found
    obtain ⟨d, reached, declared, q, hq, named⟩ := of_lookup? found
    exact ⟨q, d, hq, named, h.owner?_eq declared hq, (h.isSubclass_iff c d).2 reached⟩
  · intro c p q hp hq kind
    refine ⟨h.original?_eq_none_iff hp hq kind, fun o ho => ?_⟩
    obtain ⟨q', r, c', d, hq', owned', hr, named, owner, above⟩ := h.original?_above ho
    obtain rfl : q = q' := Option.some.inj (hq.symm.trans hq')
    obtain rfl : c = c' := Option.some.inj ((h.owner?_eq hp hq).symm.trans owned')
    refine ⟨?_, r, d, hr, named, owner, above⟩
    rintro rfl
    exact h.wellFounded_original?.irrefl.irrefl o ho

/-- Shapes, circles and discs: both the circle and the disc redefine the border of a shape, and the
disc also a shadow that no shape has. -/
def shapes : Schema where
  classes :=
    [{ name := "Shape", properties := [0] },
     { name := "Circle", generals := [0], properties := [1] },
     { name := "Disc", generals := [1], properties := [2, 3] }]
  properties :=
    [{ name := "border", kind := .association, class? := some 0, bounds := ⟨"0", "*"⟩,
       owner? := some 0 },
     { name := "border", kind := .redefinition, class? := some 0, bounds := ⟨"0", "*"⟩,
       redefines := "border", owner? := some 1 },
     { name := "rim", kind := .redefinition, class? := some 0, bounds := ⟨"0", "*"⟩,
       redefines := "border", owner? := some 2 },
     { name := "shade", kind := .redefinition, class? := some 0, bounds := ⟨"0", "*"⟩,
       redefines := "shadow", owner? := some 2 }]

/-- The rim of a disc stands for the border of a circle, and this for that of a shape. -/
theorem redefinitions_point_upwards_shapes :
    shapes.Built ∧ shapes.isSubclass 2 0 = true ∧ shapes.isSubclass 0 2 = false ∧
      shapes.original? 2 = some 1 ∧ shapes.original? 1 = some 0 ∧ shapes.original? 3 = none ∧
      TransGen shapes.Specializes 2 1 ∧ ∀ d, TransGen shapes.Specializes 2 d →
        ¬shapes.Declares d "shadow" := by
  have built : shapes.Built := by
    have classes := (((show Built {} from .refl).tail (Step.makeClass "Shape" [] (by simp))).tail
      (.makeClass "Circle" [0] (by decide))).tail (.makeClass "Disc" [1] (by decide))
    have properties := (((classes.tail
      (.makeProperty (.association "border" (some 0) []))).tail
      (.makeProperty (.redefinition "border" (some 0) "border" []))).tail
      (.makeProperty (.redefinition "rim" (some 0) "border" []))).tail
      (.makeProperty (.redefinition "shade" (some 0) "shadow" []))
    exact (((properties.tail (.add (c := 0) (p := 0) (by decide) rfl rfl rfl)).tail
      (.add (c := 1) (p := 1) (by decide) rfl rfl rfl)).tail
      (.add (c := 2) (p := 2) (by decide) rfl rfl rfl)).tail
      (.add (c := 2) (p := 3) (by decide) rfl rfl rfl)
  obtain ⟨-, -, -, redefinitions, -⟩ := redefinitions_point_upwards built
  have rim : shapes.original? 2 = some 1 := by decide
  have shade : shapes.original? 3 = none := by decide
  obtain ⟨-, r, d, hr, -, owner, above⟩ :=
    (redefinitions 2 2 _ (by decide) rfl rfl).2 1 rim
  obtain rfl : _ = r := Option.some.inj hr
  obtain rfl : _ = d := Option.some.inj owner
  exact ⟨built, by decide, by decide, rim, by decide, shade, above,
    (redefinitions 2 3 _ (by decide) rfl rfl).1.1 shade⟩

end ModelCompiler.Schema
