import ModelCompiler.Proofs.Plan.Collecting

/-!
# How a graph becomes a plan

Resolving a graph goes through one model, from which a plan is begun, extended by associations and
finished.  `resolve_eq` names these stages, so that statements about plans need not open `resolve`
again, and `resolve_of_no_fault` says what a plan without a fault is made of.
-/

namespace ModelCompiler

namespace Graph

/-- The model of a graph with its links and with the stereotypes handed down. -/
def settled (g : Graph) (cv : Conventions) : Model :=
  let m := (Model.ofGraph cv g).linkClasses
  { m with stereotypes := (m.propagate (m.unlinked.foldl Journal.add {})).stereotypes }

/-- The stereotypes of a graph on their way down the hierarchy. -/
def propagation (g : Graph) (cv : Conventions) : Propagation :=
  let m := (Model.ofGraph cv g).linkClasses
  m.propagate (m.unlinked.foldl Journal.add {})

/-- The plan of a graph before its associations. -/
def begun (g : Graph) (policy : Policy) (cv : Conventions) : Plan :=
  .begin (g.settled cv) cv policy (g.propagation cv).journal

/-- The plan of a graph after its associations, up to the first fault. -/
def associated (g : Graph) (policy : Policy) (cv : Conventions) : Plan × Option Fault :=
  (g.begun policy cv).addAssociations ((g.settled cv).withoutMetaclasses (g.settled cv).classes)
    cv.simpleAttribute policy (g.settled cv).associations

end Graph

namespace Plan

@[simp] theorem toEnd_derivedUnions_finish (p : Plan) (policy : Policy) :
    (p.finish policy).derivedUnions.map (·.toEnd) = p.derivedUnions.map (·.toEnd) :=
  p.toEnd_derivedUnions_collectUnions

theorem unionNames_finish (p : Plan) (policy : Policy) :
    (p.finish policy).unionNames = p.unionNames := by
  have names := congrArg (List.map End.name) (p.toEnd_derivedUnions_finish policy)
  rwa [List.map_map, List.map_map] at names

end Plan

theorem resolve_eq (g : Graph) (policy : Policy) (cv : Conventions) :
    resolve g policy cv =
      match (g.propagation cv).cycle with
      | some c =>
        { plan := { model := g.settled cv, journal := (g.propagation cv).journal }
          fault? := some (.generalizationCycle c) }
      | none => match g.associated policy cv with
        | (p, some e) => { plan := p, fault? := some e }
        | (p, none) =>
          if cv.strict then (p.finish policy).enforce else { plan := p.finish policy } := rfl

/-- A report that is valid after its warnings have been turned into errors has neither. -/
theorem Report.promote_of_isValid {r : Report} (h : r.promote.isValid) : r.promote = r := by
  obtain ⟨errors, warnings, infos⟩ := r
  simp only [promote, isValid, List.isEmpty_iff, List.append_eq_nil_iff, List.map_eq_nil_iff] at h
  obtain ⟨rfl, rfl⟩ := h
  rfl

theorem Plan.plan_enforce {p : Plan} (h : p.enforce.fault? = none) : p.enforce.plan = p := by
  have valid : p.journal.report.promote.isValid := by
    simp only [enforce] at h
    split at h
    · assumption
    · cases h
  change { p with journal := { p.journal with report := p.journal.report.promote } } = p
  rw [Report.promote_of_isValid valid]

/-- A run without a fault ends with the plan of all associations, finished.  This holds of a strict
run as well, since it has a fault unless there is nothing to be turned into an error. -/
theorem resolve_of_no_fault {g : Graph} {policy : Policy} {cv : Conventions}
    (h : (resolve g policy cv).fault? = none) :
    ∃ q, g.associated policy cv = (q, none) ∧ (resolve g policy cv).plan = q.finish policy := by
  rw [resolve_eq] at h ⊢
  split at h
  · cases h
  · split at h
    · cases h
    · rename_i q hq
      cases strict : cv.strict with
      | false => exact ⟨q, hq, rfl⟩
      | true =>
        rw [strict] at h
        exact ⟨q, hq, Plan.plan_enforce h⟩

end ModelCompiler
