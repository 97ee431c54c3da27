import ModelCompiler.Proofs.Plan.Frame

/-!
# What strictness changes

A strict run does what a lenient one does and then turns warnings into errors.  Since nothing else
reports an error, the errors of the strict run are the warnings of the lenient one.  Main statement:
both runs stop at the same faults with the same plans, and without a fault their plans differ in
their reports only.
-/

namespace ModelCompiler

variable (g : Graph) (policy : Policy) (cv : Conventions)

/-- Only the very end of a run depends on whether it is strict. -/
theorem resolve_strictly (strict : Bool) :
    resolve g policy { cv with strict } =
      match (g.propagation cv).cycle with
      | some c =>
        { plan := { model := g.settled cv, journal := (g.propagation cv).journal }
          fault? := some (.generalizationCycle c) }
      | none => match g.associated policy cv with
        | (p, some e) => { plan := p, fault? := some e }
        | (p, none) =>
          if strict then (p.finish policy).enforce else { plan := p.finish policy } := rfl

/-- A strict run is a lenient one whose plan is enforced, if there is no fault before. -/
theorem resolve_strict :
    resolve g policy { cv with strict := true } =
      match (resolve g policy { cv with strict := false }).fault? with
      | some _ => resolve g policy { cv with strict := false }
      | none => (resolve g policy { cv with strict := false }).plan.enforce := by
  rw [resolve_strictly, resolve_strictly]
  cases (g.propagation cv).cycle with
  | some c => rfl
  | none => rcases g.associated policy cv with ⟨p, _ | e⟩ <;> rfl

/-- A lenient run reports no errors. -/
theorem errors_resolve_lenient :
    (resolve g policy { cv with strict := false }).plan.journal.report.errors = [] := by
  have begun := g.errors_begun policy cv
  have associated := (g.continues_associated policy cv).errors.trans begun
  rw [resolve_strictly]
  split
  · exact begun
  · split
    · rename_i p e h
      rw [h] at associated
      exact associated
    · rename_i p h
      rw [h] at associated
      exact (p.continues_finish policy).errors.trans associated

/-- Enforcing stops at the warnings of a plan without errors. -/
theorem Plan.fault?_enforce {p : Plan} (h : p.journal.report.errors = []) :
    p.enforce.fault? =
      if p.journal.report.warnings = [] then none
      else some (.strict p.enforce.plan.journal.report) := by
  cases hw : p.journal.report.warnings with
  | nil => simp [enforce, Report.promote, Report.isValid, h, hw]
  | cons d ds => simp [enforce, Report.promote, Report.isValid, h, hw]

theorem Fault.message_strict {r : Report} (h : r.errors ≠ []) :
    (Fault.strict r).message =
      "strict mode: " ++ Text.joinWith "; " (r.errors.map Diagnostic.text) := by
  simp [message, Report.combined?, Report.isValid, h]

/-- Being strict changes nothing but the report.  A fault of a lenient run is the fault of the
strict run, with the same plan.  Without a fault the plans agree but for their reports: the lenient
one has no errors, the strict one has the warnings of the lenient one as its errors, in order, and
no warnings, and the strict run stops with all of them if there are any. -/
theorem strictness_changes_report_only (g : Graph) (policy : Policy) (cv : Conventions) :
    let lenient := resolve g policy { cv with strict := false }
    let strict := resolve g policy { cv with strict := true }
    let warned := lenient.plan.journal.report
    let report := strict.plan.journal.report
    (∀ e, lenient.fault? = some e → strict.fault? = some e ∧ strict.plan = lenient.plan) ∧
    (lenient.fault? = none →
      strict.plan = { lenient.plan with journal := { lenient.plan.journal with report } } ∧
      report.infos = warned.infos ∧
      warned.errors = [] ∧
      report.warnings = [] ∧
      report.errors = warned.warnings.map (fun d => { d with severity := .error }) ∧
      strict.fault? = (if warned.warnings = [] then none else some (.strict report)) ∧
      strict.fault?.map Fault.message =
        if warned.warnings = [] then none
        else some ("strict mode: " ++
          Text.joinWith "; " (report.errors.map Diagnostic.text))) := by
  intro lenient strict warned report
  have ending : strict = match lenient.fault? with
      | some _ => lenient
      | none => lenient.plan.enforce := resolve_strict g policy cv
  constructor
  · intro e he
    rw [he] at ending
    rw [ending]
    exact ⟨he, rfl⟩
  · intro h
    rw [h] at ending
    have clean : warned.errors = [] := errors_resolve_lenient g policy cv
    have promoted : report = warned.promote := by
      simp only [report, ending]
      rfl
    have errors : report.errors = warned.warnings.map fun d => { d with severity := .error } := by
      rw [promoted, Report.promote, clean, List.nil_append]
    have fault : strict.fault? = if warned.warnings = [] then none else some (.strict report) := by
      simp only [report, ending]
      exact Plan.fault?_enforce clean
    refine ⟨?_, ?_, clean, ?_, errors, fault, ?_⟩
    · rw [promoted, ending]
      rfl
    · rw [promoted]
      rfl
    · rw [promoted]
      rfl
    · rw [fault]
      split
      · rfl
      · rename_i some
        have stopped : report.errors ≠ [] := by
          rw [errors]
          simpa using some
        rw [Option.map_some, Fault.message_strict stopped]

/-- A generalization that leads nowhere. -/
def stray : Graph where
  elements :=
    [⟨"a", "Class", [("name", .scalar "A")]⟩,
     ⟨"link", "Generalization", [("specific", .ref "a"), ("general", .ref "b")]⟩]
  ids_nodup := by decide
  ids_ne := by decide

/-- An end without a name. -/
def nameless : Graph where
  elements :=
    [⟨"a", "Class", [("name", .scalar "A")]⟩,
     ⟨"x", "Property", [("class_", .ref "a"), ("type", .ref "a")]⟩,
     ⟨"y", "Property", [("type", .ref "a")]⟩,
     ⟨"xy", "Association", [("memberEnd", .refList ["x", "y"])]⟩]
  ids_nodup := by decide
  ids_ne := by decide

theorem strictness_changes_report_only_stray :
    (resolve stray .none { strict := false }).fault? = none ∧
    ((resolve stray .none { strict := true }).fault?.map Fault.message =
      some ("strict mode: [link]: [unknown_class] generalization a -> b does not link two " ++
        "classes")) ∧
    (resolve nameless .none { strict := false }).fault? = some (.unnamedEnd "x" "A") ∧
    (resolve nameless .none { strict := true }).fault? = some (.unnamedEnd "x" "A") := by
  have runs : (resolve stray .none { strict := false }).fault? = none := by decide +kernel
  have stops : (resolve nameless .none { strict := false }).fault? =
      some (.unnamedEnd "x" "A") := by decide +kernel
  obtain ⟨-, -, -, -, errors, -, message⟩ :=
    (strictness_changes_report_only stray .none {}).2 runs
  obtain ⟨same, -⟩ := (strictness_changes_report_only nameless .none {}).1 _ stops
  refine ⟨runs, ?_, stops, same⟩
  rw [message, errors]
  decide +kernel

end ModelCompiler
