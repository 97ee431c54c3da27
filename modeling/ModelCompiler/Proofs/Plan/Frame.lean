import ModelCompiler.Proofs.Plan.Resolution

/-!
# What resolving leaves as it was

Adding associations and collecting unions may stop anywhere, and what has been done until then
stays.  Whatever the outcome, the model and the classes of the plan are those that it had before,
and nothing that is reported on the way is an error.  An accepted association is not even worth a
warning.
-/

namespace ModelCompiler

/-- A warning leaves the errors alone. -/
theorem Report.errors_add_of_warning {r : Report} {d : Diagnostic} (h : d.severity = .warning) :
    (r.add d).errors = r.errors := by
  rw [add, h]

/-! ## Warnings -/

namespace Model

variable {m : Model} {scope : List Class} {a : Association} {d : Diagnostic}

/-- A member that is no end is worth a warning. -/
theorem severity_of_memberEnd {member : Element} (h : m.memberEnd scope a member = .error d) :
    d.severity = .warning := by
  unfold memberEnd at h
  split at h
  · cases h
    rfl
  · split at h
    · cases h
      rfl
    · cases h
      rfl
    · split at h <;> cases h
      rfl

/-- An association that is not accepted is worth a warning. -/
theorem severity_of_endsOf (h : m.endsOf scope a = .error d) : d.severity = .warning := by
  unfold endsOf at h
  split at h
  · split at h
    · rename_i he
      cases h
      exact severity_of_memberEnd he
    · split at h
      · rename_i hf
        cases h
        exact severity_of_memberEnd hf
      · cases h
  · cases h
    rfl

theorem errors_unlinked (m : Model) (j : Journal) :
    (m.unlinked.foldl Journal.add j).report.errors = j.report.errors := by
  refine List.foldlRecOn m.unlinked Journal.add
    (motive := fun k => k.report.errors = j.report.errors) rfl fun k hk d hd => ?_
  obtain ⟨x, -, rfl⟩ := List.mem_map.1 hd
  exact hk

/-- Handing down stereotypes leads to warnings and infos only. -/
theorem errors_propagate (m : Model) (j : Journal) :
    (m.propagate j).journal.report.errors = j.report.errors := by
  refine List.foldlRecOn m.classes (Propagation.visit m)
    (motive := fun p => p.journal.report.errors = j.report.errors)
    (b := { stereotypes := m.stereotypes, journal := j }) rfl fun p hp c _ => ?_
  unfold Propagation.visit
  split
  · exact hp
  · split
    · exact hp
    · rename_i name _
      refine List.foldlRecOn _ _
        (motive := fun k : Journal => k.report.errors = j.report.errors) hp fun k hk _ _ => hk

end Model

theorem Subsetting.errors_unknownUnion (names : List String) (s : Subsetting) (j : Journal) :
    (s.unknownUnion names j).report.errors = j.report.errors := by
  unfold unknownUnion
  split <;> rfl

namespace Plan

/-- `q` is `p` after more work: model and classes are the same, no errors have been added, and the
names of unions are still distinct. -/
structure Continues (p q : Plan) : Prop where
  model : q.model = p.model
  classes : q.classes = p.classes
  errors : q.journal.report.errors = p.journal.report.errors
  distinct : p.unionNames.Nodup → q.unionNames.Nodup

namespace Continues

variable {p q r : Plan}

theorem refl (p : Plan) : p.Continues p := ⟨rfl, rfl, rfl, id⟩

theorem trans (h : p.Continues q) (k : q.Continues r) : p.Continues r where
  model := k.model.trans h.model
  classes := k.classes.trans h.classes
  errors := k.errors.trans h.errors
  distinct := k.distinct ∘ h.distinct

theorem andThen {s : Plan × Option Fault} {f : Plan → Plan × Option Fault} (h : p.Continues s.1)
    (k : ∀ q : Plan, q.Continues (f q).1) : p.Continues (andThen s f).1 := by
  obtain ⟨q, _ | e⟩ := s
  · exact h.trans (k q)
  · exact h

end Continues

/-- The warnings that have come up while a plan was made. -/
def warnings (p : Plan) : List Diagnostic := p.journal.report.warnings

/-- `q` is `p` after more work that was not worth a warning. -/
structure Silent (p q : Plan) : Prop extends p.Continues q where
  warnings : q.warnings = p.warnings

namespace Silent

variable {p q r : Plan}

theorem refl (p : Plan) : p.Silent p := ⟨.refl p, rfl⟩

theorem trans (h : p.Silent q) (k : q.Silent r) : p.Silent r :=
  ⟨h.toContinues.trans k.toContinues, k.warnings.trans h.warnings⟩

theorem andThen {s : Plan × Option Fault} {f : Plan → Plan × Option Fault} (h : p.Silent s.1)
    (k : ∀ q : Plan, q.Silent (f q).1) : p.Silent (andThen s f).1 := by
  obtain ⟨q, _ | e⟩ := s
  · exact h.trans (k q)
  · exact h

end Silent

/-! ## One association -/

theorem silent_noteTags (p : Plan) (e : End) : p.Silent (p.noteTags e).1 := by
  unfold noteTags
  split
  · exact .refl p
  · split
    · exact .refl p
    · exact ⟨⟨rfl, rfl, rfl, id⟩, rfl⟩

theorem silent_addUnion (p : Plan) (e : End) : p.Silent (p.addUnion e).1 := by
  unfold addUnion
  split
  · exact .refl p
  · rename_i missing
    refine ⟨⟨rfl, rfl, rfl, fun distinct => ?_⟩, rfl⟩
    have fresh : ∀ u ∈ p.derivedUnions, u.toEnd.name ≠ e.name := by
      simpa using List.find?_eq_none.1 missing
    simp only [unionNames, List.map_append, List.map_singleton]
    exact List.Nodup.append distinct (by simp) (by simpa using fresh)

theorem silent_place (p : Plan) (head tail : End) (isSimple : Bool) :
    p.Silent (p.place head tail isSimple).1 := by
  unfold place
  split
  · exact .refl p
  · cases isSimple with
    | false => exact .refl p
    | true => exact ⟨⟨rfl, rfl, rfl, id⟩, rfl⟩
  · exact ⟨⟨rfl, rfl, rfl, id⟩, rfl⟩
  · exact silent_addUnion p head
  · exact ⟨⟨rfl, rfl, rfl, id⟩, rfl⟩

/-- An accepted association is not worth a warning. -/
theorem silent_addEnds (p : Plan) (c : Classified) : p.Silent (p.addEnds c).1 :=
  (silent_noteTags p c.first).andThen fun p =>
  (silent_noteTags p c.second).andThen fun p =>
  (silent_place p c.first c.second c.firstIsSimple).andThen fun p =>
  (silent_place p c.second c.first c.secondIsSimple).andThen fun _ => ⟨⟨rfl, rfl, rfl, id⟩, rfl⟩

theorem continues_addAssociation (scope : List Class) (simpleAttribute : String) (policy : Policy)
    (p : Plan) (a : Association) :
    p.Continues (p.addAssociation scope simpleAttribute policy a).1 := by
  unfold addAssociation
  split
  · rename_i d hd
    exact ⟨rfl, rfl, Report.errors_add_of_warning (Model.severity_of_endsOf hd), id⟩
  · exact (silent_addEnds p _).toContinues

/-! ## A whole run -/

theorem continues_addAssociations (scope : List Class) (simpleAttribute : String)
    (policy : Policy) (p : Plan) (as : List Association) :
    p.Continues (addAssociations scope simpleAttribute policy p as).1 := by
  induction as generalizing p with
  | nil => exact .refl p
  | cons a as ih => exact (continues_addAssociation scope simpleAttribute policy p a).andThen ih

theorem continues_finish (p : Plan) (policy : Policy) : p.Continues (p.finish policy) where
  model := rfl
  classes := rfl
  errors := by
    change p.collectUnions.journal.report.errors = _
    rw [journal_collectUnions]
    exact List.foldlRecOn _ _
      (motive := fun k : Journal => k.report.errors = p.journal.report.errors)
      rfl fun k hk s _ => (s.errors_unknownUnion p.unionNames k).trans hk
  distinct := by
    rw [unionNames_finish]
    exact id

end Plan

/-- Whatever its associations lead to, a plan keeps the model and the classes that it began with,
and it has no errors. -/
theorem Graph.continues_associated (g : Graph) (policy : Policy) (cv : Conventions) :
    (g.begun policy cv).Continues (g.associated policy cv).1 :=
  Plan.continues_addAssociations _ _ _ _ _

/-- The unions that a plan is given by associations have distinct names. -/
theorem Graph.distinct_associated (g : Graph) (policy : Policy) (cv : Conventions) :
    (g.associated policy cv).1.unionNames.Nodup :=
  (g.continues_associated policy cv).distinct List.nodup_nil

theorem Graph.errors_begun (g : Graph) (policy : Policy) (cv : Conventions) :
    (g.begun policy cv).journal.report.errors = [] :=
  (Model.errors_propagate _ _).trans (Model.errors_unlinked _ _)

section Resolved

variable {g : Graph} {policy : Policy} {cv : Conventions}

/-- A run that gets past the stereotypes keeps the settled model and the classes that it retains,
whatever comes after. -/
theorem plan_of_no_cycle
    (h : ∀ c, (resolve g policy cv).fault? ≠ some (.generalizationCycle c)) :
    (resolve g policy cv).plan.model = (g.settled cv).listLiterals ∧
      (resolve g policy cv).plan.classes =
        (g.settled cv).withoutStereotype cv.simpleAttribute
          ((g.settled cv).withoutMetaclasses (g.settled cv).classes) := by
  have kept := g.continues_associated policy cv
  rw [resolve_eq] at h ⊢
  split at h
  · rename_i c hc
    exact absurd rfl (h c)
  · split at h
    · rename_i p e hp
      rw [hp] at kept
      exact ⟨kept.model, kept.classes⟩
    · rename_i p hp
      rw [hp] at kept
      have finished := kept.trans (p.continues_finish policy)
      cases cv.strict with
      | false => exact ⟨finished.model, finished.classes⟩
      | true => exact ⟨finished.model, finished.classes⟩

theorem model_resolve (h : (resolve g policy cv).fault? = none) :
    (resolve g policy cv).plan.model = (g.settled cv).listLiterals :=
  (plan_of_no_cycle (by simp [h])).1

/-- The classes of a plan are those that are no metaclasses and do not stand for scalar values. -/
theorem classes_resolve (h : (resolve g policy cv).fault? = none) :
    (resolve g policy cv).plan.classes =
      (g.settled cv).withoutStereotype cv.simpleAttribute
        ((g.settled cv).withoutMetaclasses (g.settled cv).classes) :=
  (plan_of_no_cycle (by simp [h])).2

end Resolved

end ModelCompiler
