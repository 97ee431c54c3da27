import Mathlib.Control.Monad.Basic
import ModelCompiler.Command.Run
import ModelCompiler.Proofs.Files.Tree

/-!
# What a run leaves behind

Until the source is there, a run only reads, whatever the libraries do that it leaves work to.  Main
statement (`run_writes_only_output`): a failing run prints nothing and leaves every file as it was,
except that a draft that could not be formatted is left beside the file that was asked for.  A run
to a file that ends well changes that file alone and leaves the generated source in it.
-/

namespace ModelCompiler

variable {l : Libraries}

/-! ## Reading -/

/-- A computation that leaves the tree as it is. -/
def ReadsOnly {α : Type} (x : StateM FileTree α) : Prop := ∀ t, (x t).2 = t

theorem bind_apply {α β : Type} (x : StateM FileTree α) (f : α → StateM FileTree β)
    (t : FileTree) : (x >>= f) t = f (x t).1 (x t).2 := rfl

theorem pure_apply {α : Type} (a : α) (t : FileTree) : (pure a : StateM FileTree α) t = (a, t) :=
  rfl

namespace ReadsOnly

variable {α β : Type} {x : StateM FileTree α}

theorem pure (a : α) : ReadsOnly (Pure.pure a) := fun _ => rfl

theorem bind {f : α → StateM FileTree β} (hx : ReadsOnly x) (hf : ∀ a, ReadsOnly (f a)) :
    ReadsOnly (x >>= f) :=
  fun t => (hf (x t).1 (x t).2).trans (hx t)

theorem bind_eq (hx : ReadsOnly x) (f : α → StateM FileTree β) (t : FileTree) :
    (x >>= f) t = f (x t).1 t :=
  congrArg (f (x t).1) (hx t)

theorem load (path : String) : ReadsOnly (load path) := fun _ => rfl

theorem readEnvironment (path : String) :
    ReadsOnly (readEnvironment (m := StateM FileTree) l path) := by
  refine (load path).bind fun r => ?_
  cases r <;> exact pure _

theorem readSettings (process : Environment) :
    ReadsOnly (readSettings (m := StateM FileTree) l process) := by
  refine (readEnvironment environmentPath).bind fun r => ?_
  cases r <;> exact pure _

theorem readModel (path : String) : ReadsOnly (readModel (m := StateM FileTree) path) := by
  refine (load path).bind fun r => ?_
  cases r <;> exact pure _

theorem readPolicy (path : String) : ReadsOnly (readPolicy (m := StateM FileTree) l path) := by
  unfold ModelCompiler.readPolicy
  split
  · exact pure _
  · refine (load path).bind fun r => ?_
    cases r <;> exact pure _

theorem compileFiles (s : Settings) : ReadsOnly (compileFiles (m := StateM FileTree) l s) := by
  refine (readModel s.model).bind fun r => ?_
  cases r with
  | error f => exact pure _
  | ok g =>
    refine (readPolicy s.overrides).bind fun p => ?_
    cases p <;> exact pure _

end ReadsOnly

/-! ## Saving -/

theorem createDirectory_eq (path : String) (t : FileTree) :
    createDirectory (m := StateM FileTree) path t =
      match t.makeDirectory path with
      | .ok t' => (.ok (), t')
      | .error e => (.error e, t) := rfl

theorem store_eq (path text : String) (t : FileTree) :
    store (m := StateM FileTree) path text t =
      match t.write path text with
      | .ok t' => (.ok (), t')
      | .error e => (.error e, t) := rfl

theorem save_eq (path text : String) (t : FileTree) :
    save (m := StateM FileTree) path text t =
      match t.makeDirectory (Path.directory path) with
      | .error e => (.error (.directory e), t)
      | .ok made =>
        match made.write path text with
        | .error e => (.error (.outputFile path e), made)
        | .ok t' => (.ok (), t') := by
  unfold save
  rw [bind_apply, createDirectory_eq]
  cases t.makeDirectory (Path.directory path) with
  | error e => rfl
  | ok made =>
    simp only [bind_apply, store_eq]
    cases made.write path text <;> rfl

/-- A text is saved, or every file is as it was. -/
theorem saved_or_kept (path text : String) (t : FileTree) :
    (∃ t', save (m := StateM FileTree) path text t = (.ok (), t') ∧ t.Saved path text t') ∨
      ∃ f t', save (m := StateM FileTree) path text t = (.error f, t') ∧ t'.file? = t.file? := by
  rw [save_eq]
  cases made : t.makeDirectory (Path.directory path) with
  | error e => exact Or.inr ⟨_, t, rfl, rfl⟩
  | ok t₁ =>
    have kept := FileTree.file?_makeDirectory made
    simp only
    cases written : t₁.write path text with
    | error e => exact Or.inr ⟨_, t₁, rfl, kept⟩
    | ok t₂ =>
      obtain ⟨place, found, files⟩ := FileTree.saved_write written
      exact Or.inl ⟨t₂, rfl, place, found, kept ▸ files⟩

/-! ## Settings and results -/

/-- The settings of a run, or its outcome if it does not get that far. -/
def configure (l : Libraries) (process : Environment) (args : List String) (t : FileTree) :
    Except Outcome Settings :=
  match (readSettings (m := StateM FileTree) l process t).1 with
  | .error f => .error (.failed "" f)
  | .ok defaults => (defaults.withArguments args).mapError (.misused defaults)

/-- The plan of a resolution without a fault. -/
def Resolution.settled (r : Resolution) : Except Failure Plan :=
  match r.fault? with
  | some f => .error (.resolution f)
  | none => .ok r.plan

namespace Settings

/-- The plan that the model and the overrides of some settings make. -/
def plan (s : Settings) (l : Libraries) (t : FileTree) : Except Failure Plan := do
  let g ← (readModel (m := StateM FileTree) s.model t).1
  let policy ← (readPolicy (m := StateM FileTree) l s.overrides t).1
  (resolve g policy s.conventions).settled

/-- A plan with its source, or the reason why it has none. -/
def generated (s : Settings) (p : Plan) : Except Failure (Plan × String) :=
  match Source.generate p s.target with
  | .ok source => .ok (p, source)
  | .error e => .error (.generation e)

/-- What the files of some settings are compiled to. -/
def result (s : Settings) (l : Libraries) (t : FileTree) : Except Failure (Plan × String) :=
  (compileFiles (m := StateM FileTree) l s t).1.result

end Settings

theorem run_eq (l : Libraries) (process : Environment) (args : List String) (t : FileTree) :
    run (m := StateM FileTree) l process args t =
      match configure l process args t with
      | .error o => (o, t)
      | .ok s => deliver (m := StateM FileTree) s.destination
          (compileFiles (m := StateM FileTree) l s t).1 t := by
  unfold run configure
  rw [(ReadsOnly.readSettings process).bind_eq]
  cases (readSettings (m := StateM FileTree) l process t).1 with
  | error f => rfl
  | ok defaults =>
    cases h : defaults.withArguments args with
    | error e =>
      simp only [h]
      rfl
    | ok s =>
      simp only [h]
      exact (ReadsOnly.compileFiles s).bind_eq _ t

/-- A run without settings fails and prints nothing. -/
theorem outcome_of_configure {process : Environment} {args : List String} {t : FileTree}
    {o : Outcome} (h : configure l process args t = .error o) : o.exit ≠ 0 ∧ o.stdout = "" := by
  unfold configure at h
  split at h
  case h_1 =>
    cases h
    exact ⟨Nat.one_ne_zero, rfl⟩
  case h_2 defaults _ =>
    cases misused : defaults.withArguments args with
    | error e =>
      rw [misused] at h
      cases h
      exact ⟨Nat.succ_ne_zero 1, rfl⟩
    | ok s =>
      rw [misused] at h
      cases h

theorem readModel_ne_generation (path : String) (t : FileTree)
    (e : Source.GenerationError) :
    (readModel (m := StateM FileTree) path t).1 ≠ .error (.generation e) := by
  unfold readModel
  rw [(ReadsOnly.load path).bind_eq]
  cases (load (m := StateM FileTree) path t).1 with
  | error _ => exact nofun
  | ok text =>
    simp only [pure_apply]
    cases Graph.ofDocument text <;> exact nofun

theorem readPolicy_ne_generation (l : Libraries) (path : String) (t : FileTree)
    (e : Source.GenerationError) :
    (readPolicy (m := StateM FileTree) l path t).1 ≠ .error (.generation e) := by
  unfold readPolicy
  split
  · exact nofun
  · rw [(ReadsOnly.load path).bind_eq]
    cases (load (m := StateM FileTree) path t).1 with
    | error _ => exact nofun
    | ok text =>
      simp only [pure_apply]
      cases Overrides.parse l.overrides text <;> exact nofun

namespace Settings

variable {s : Settings} {t : FileTree}

theorem result_compile (l : Libraries) (s : Settings) (g : Graph) (policy : Policy) :
    (compile l s g policy).result = (resolve g policy s.conventions).settled.bind s.generated := by
  cases h : (resolve g policy s.conventions).fault? with
  | some f =>
    simp only [compile, Resolution.settled, h, Except.bind]
  | none =>
    cases hg : Source.generate (resolve g policy s.conventions).plan s.target <;>
      simp only [compile, Resolution.settled, h, Except.bind, generated, hg]

theorem result_eq (s : Settings) (l : Libraries) (t : FileTree) :
    s.result l t = (s.plan l t).bind s.generated := by
  unfold result plan compileFiles
  rw [(ReadsOnly.readModel s.model).bind_eq]
  cases (readModel (m := StateM FileTree) s.model t).1 with
  | error f => rfl
  | ok g =>
    simp only
    rw [(ReadsOnly.readPolicy s.overrides).bind_eq]
    cases (readPolicy (m := StateM FileTree) l s.overrides t).1 with
    | error f => rfl
    | ok policy => exact result_compile l s g policy

theorem generated_eq_ok_iff {p q : Plan} {source : String} :
    s.generated q = .ok (p, source) ↔ q = p ∧ Source.generate p s.target = .ok source := by
  unfold generated
  split
  case h_1 text h =>
    constructor
    · intro same
      cases same
      exact ⟨rfl, h⟩
    · rintro ⟨rfl, h'⟩
      cases h.symm.trans h'
      rfl
  case h_2 e h =>
    refine ⟨nofun, ?_⟩
    rintro ⟨rfl, h'⟩
    cases h.symm.trans h'

theorem result_eq_ok_iff {p : Plan} {source : String} :
    s.result l t = .ok (p, source) ↔
      s.plan l t = .ok p ∧ Source.generate p s.target = .ok source := by
  rw [result_eq]
  cases s.plan l t with
  | error f => exact ⟨nofun, nofun⟩
  | ok q =>
    refine generated_eq_ok_iff.trans (and_congr_left fun _ => ?_)
    exact ⟨congrArg Except.ok, Except.ok.inj⟩

theorem generated_eq_generation_iff {p : Plan} {e : Source.GenerationError} :
    s.generated p = .error (.generation e) ↔ Source.generate p s.target = .error e := by
  unfold generated
  split
  case h_1 h => simp only [h, reduceCtorEq]
  case h_2 h => simp only [h, Except.error.injEq, Failure.generation.injEq]

/-- Nothing that goes wrong before there is a plan is blamed on generation. -/
theorem plan_ne_generation (s : Settings) (l : Libraries) (t : FileTree)
    (e : Source.GenerationError) : s.plan l t ≠ .error (.generation e) := by
  have model := readModel_ne_generation s.model t e
  have overrides := readPolicy_ne_generation l s.overrides t e
  unfold plan
  cases hm : (readModel (m := StateM FileTree) s.model t).1 with
  | error f =>
    intro h
    cases Except.error.inj h
    exact model hm
  | ok g =>
    cases hp : (readPolicy (m := StateM FileTree) l s.overrides t).1 with
    | error f =>
      intro h
      cases Except.error.inj h
      exact overrides hp
    | ok policy =>
      change (resolve g policy s.conventions).settled ≠ _
      unfold Resolution.settled
      split <;> exact nofun

theorem result_eq_generation_iff {e : Source.GenerationError} :
    s.result l t = .error (.generation e) ↔
      ∃ p, s.plan l t = .ok p ∧ Source.generate p s.target = .error e := by
  rw [result_eq]
  cases h : s.plan l t with
  | error f =>
    constructor
    · rintro ⟨⟩
      exact absurd h (plan_ne_generation s l t e)
    · exact nofun
  | ok q =>
    refine generated_eq_generation_iff.trans ⟨fun failed => ⟨q, rfl, failed⟩, ?_⟩
    rintro ⟨p, ⟨⟩, failed⟩
    exact failed

end Settings

/-! ## Delivery -/

/-- The draft of a failure is the one that generation could not format. -/
theorem draft?_eq_some {f : Failure} {draft : String} (h : f.draft? = some draft) :
    f = .generation (.format draft) := by
  unfold Failure.draft? at h
  split at h
  · cases h
    rfl
  · cases h

section

variable {c : Compilation} (t : FileTree)

theorem deliver_error_stdout {f : Failure} (h : c.result = .error f) :
    deliver (m := StateM FileTree) .stdout c t = (.failed c.log f, t) := by
  unfold deliver
  rw [h]
  rfl

theorem deliver_ok_stdout {p : Plan} {source : String} (h : c.result = .ok (p, source)) :
    deliver (m := StateM FileTree) .stdout c t =
      ({ exit := 0, stdout := source, stderr := c.log }, t) := by
  unfold deliver
  rw [h]
  rfl

theorem deliver_error_file {f : Failure} (h : c.result = .error f) (path : String) :
    deliver (m := StateM FileTree) (.file path) c t =
      (.failed c.log f, match f.draft? with
        | some draft => (save (m := StateM FileTree) (Path.sidecar path) draft t).2
        | none => t) := by
  simp only [deliver, h]
  cases f.draft? with
  | none => rfl
  | some draft =>
    simp only [bind_apply]
    rfl

theorem deliver_ok_file {p : Plan} {source : String} (h : c.result = .ok (p, source))
    (path : String) :
    deliver (m := StateM FileTree) (.file path) c t =
      match save (m := StateM FileTree) path source t with
      | (.ok (), t') => ({ exit := 0, stderr := c.log ++ logLine (p.summary path) }, t')
      | (.error f, t') => (.failed c.log f, t') := by
  simp only [deliver, h, bind_apply]
  obtain ⟨r, t'⟩ := save (m := StateM FileTree) path source t
  cases r <;> rfl

variable {t} {o : Outcome} {t' : FileTree}

/-- What a failed delivery leaves behind. -/
theorem deliver_failing {destination : Destination}
    (h : deliver (m := StateM FileTree) destination c t = (o, t')) (failing : o.exit ≠ 0) :
    o.stdout = "" ∧
      (t'.file? = t.file? ∨
        ∃ path draft, destination = .file path ∧
          c.result = .error (.generation (.format draft)) ∧
          t.Saved (Path.sidecar path) draft t') := by
  cases hc : c.result with
  | error f =>
    cases destination with
    | stdout =>
      cases (deliver_error_stdout t hc).symm.trans h
      exact ⟨rfl, Or.inl rfl⟩
    | file path =>
      cases (deliver_error_file t hc path).symm.trans h
      refine ⟨rfl, ?_⟩
      cases hd : f.draft? with
      | none => exact Or.inl rfl
      | some draft =>
        simp only
        obtain ⟨t₁, done, saved⟩ | ⟨e, t₁, failed, kept⟩ :=
          saved_or_kept (Path.sidecar path) draft t
        · rw [done]
          exact Or.inr ⟨path, draft, rfl, congrArg _ (draft?_eq_some hd), saved⟩
        · rw [failed]
          exact Or.inl kept
  | ok r =>
    obtain ⟨p, source⟩ := r
    cases destination with
    | stdout =>
      cases (deliver_ok_stdout t hc).symm.trans h
      exact absurd rfl failing
    | file path =>
      rw [deliver_ok_file t hc] at h
      obtain ⟨t₁, done, -⟩ | ⟨e, t₁, failed, kept⟩ := saved_or_kept path source t
      · rw [done] at h
        cases h
        exact absurd rfl failing
      · rw [failed] at h
        cases h
        exact ⟨rfl, Or.inl kept⟩

/-- The draft of a source that could not be formatted is left beside the file. -/
theorem deliver_rejected {path draft : String}
    (hc : c.result = .error (.generation (.format draft)))
    (h : deliver (m := StateM FileTree) (.file path) c t = (o, t')) :
    o.exit = 1 ∧ ((save (m := StateM FileTree) (Path.sidecar path) draft t).1 = .ok () →
      t.Saved (Path.sidecar path) draft t') := by
  cases (deliver_error_file t hc path).symm.trans h
  refine ⟨rfl, fun stored => ?_⟩
  obtain ⟨t₁, done, saved⟩ | ⟨e, t₁, failed, -⟩ := saved_or_kept (Path.sidecar path) draft t
  · change t.Saved _ draft (save (m := StateM FileTree) (Path.sidecar path) draft t).2
    rw [done]
    exact saved
  · rw [failed] at stored
    cases stored

/-- A delivery of a source to a file ends well if the source can be saved. -/
theorem deliver_stored {path source : String} {p : Plan} (hc : c.result = .ok (p, source))
    (h : deliver (m := StateM FileTree) (.file path) c t = (o, t'))
    (stored : (save (m := StateM FileTree) path source t).1 = .ok ()) : o.exit = 0 := by
  rw [deliver_ok_file t hc] at h
  obtain ⟨t₁, done, -⟩ | ⟨e, t₁, failed, -⟩ := saved_or_kept path source t
  · rw [done] at h
    cases h
    rfl
  · rw [failed] at stored
    cases stored

/-- What a delivery to a file leaves behind if it ends well. -/
theorem deliver_file_done {path : String}
    (h : deliver (m := StateM FileTree) (.file path) c t = (o, t')) (done : o.exit = 0) :
    o.stdout = "" ∧ ∃ p source, c.result = .ok (p, source) ∧ t.Saved path source t' := by
  cases hc : c.result with
  | error f =>
    cases (deliver_error_file t hc path).symm.trans h
    cases done
  | ok r =>
    obtain ⟨p, source⟩ := r
    rw [deliver_ok_file t hc] at h
    obtain ⟨t₁, stored, saved⟩ | ⟨e, t₁, failed, -⟩ := saved_or_kept path source t
    · rw [stored] at h
      cases h
      exact ⟨rfl, p, source, rfl, saved⟩
    · rw [failed] at h
      cases h
      cases done

end

/-- Whatever the libraries do, a failing run prints nothing and changes no file, except that a draft
which could not be formatted is left beside the output file.  A run to a file ends well if there is
a source and it can be saved; it then prints nothing and leaves the source in that file and no
other. -/
theorem run_writes_only_output (l : Libraries) (process : Environment) (args : List String)
    (t : FileTree) {o : Outcome} {t' : FileTree}
    (h : run (m := StateM FileTree) l process args t = (o, t')) :
    (o.exit ≠ 0 → o.stdout = "" ∧
      (t'.file? = t.file? ∨
        ∃ s path p draft, configure l process args t = .ok s ∧ s.destination = .file path ∧
          s.plan l t = .ok p ∧ Source.generate p s.target = .error (.format draft) ∧
          t.Saved (Path.sidecar path) draft t' ∧
          ∀ place, t'.locate path = .ok place → t'.file? place = t.file? place)) ∧
    (∀ s path p draft, configure l process args t = .ok s → s.destination = .file path →
      s.plan l t = .ok p → Source.generate p s.target = .error (.format draft) →
      o.exit = 1 ∧ ((save (m := StateM FileTree) (Path.sidecar path) draft t).1 = .ok () →
        t.Saved (Path.sidecar path) draft t')) ∧
    (∀ path, Path.sidecar path ≠ path) ∧
    (∀ s path p source, configure l process args t = .ok s → s.destination = .file path →
      s.plan l t = .ok p → Source.generate p s.target = .ok source →
      (save (m := StateM FileTree) path source t).1 = .ok () → o.exit = 0) ∧
    ∀ s path, configure l process args t = .ok s → s.destination = .file path → o.exit = 0 →
      o.stdout = "" ∧ ∃ p source, s.plan l t = .ok p ∧ Source.generate p s.target = .ok source ∧
        t.Saved path source t' := by
  rw [run_eq] at h
  cases hs : configure l process args t with
  | error outcome =>
    rw [hs] at h
    cases h
    obtain ⟨fails, silent⟩ := outcome_of_configure hs
    exact ⟨fun _ => ⟨silent, Or.inl rfl⟩, nofun, Path.sidecar_ne, nofun, nofun⟩
  | ok s =>
    simp only [hs] at h
    refine ⟨fun failing => ?_, ?_, Path.sidecar_ne, ?_, ?_⟩
    · obtain ⟨silent, kept | ⟨path, draft, destination, result, saved⟩⟩ := deliver_failing h failing
      · exact ⟨silent, Or.inl kept⟩
      · obtain ⟨p, planned, rejected⟩ := Settings.result_eq_generation_iff.1 result
        refine ⟨silent, Or.inr ⟨s, path, p, draft, rfl, destination, planned, rejected, saved, ?_⟩⟩
        intro place found
        obtain ⟨beside, draftFound, files⟩ := saved
        rw [files, Function.update_of_ne (FileTree.locate_sidecar_ne found draftFound)]
    · rintro _ path p draft ⟨⟩ destination planned rejected
      rw [destination] at h
      exact deliver_rejected (Settings.result_eq_generation_iff.2 ⟨p, planned, rejected⟩) h
    · rintro _ path p source ⟨⟩ destination planned generated stored
      rw [destination] at h
      exact deliver_stored (Settings.result_eq_ok_iff.2 ⟨planned, generated⟩) h stored
    · rintro _ path ⟨⟩ destination done
      rw [destination] at h
      obtain ⟨silent, p, source, result, saved⟩ := deliver_file_done h done
      obtain ⟨planned, generated⟩ := Settings.result_eq_ok_iff.1 result
      exact ⟨silent, p, source, planned, generated, saved⟩

/-- No package is named by a numeral, so there the draft is left beside `o.go`. -/
theorem run_writes_only_output_numeral :
    let t : FileTree := ⟨[(["m"], .file "<m/>")]⟩
    let rejected := run (m := StateM FileTree) .standard {} ["-package", "1", "-out", "o.go", "m"] t
    let done := run (m := StateM FileTree) .standard {} ["-out", "o.go", "m"] t
    (rejected.1.exit ≠ 0 ∧ rejected.1.stdout = "" ∧
      ∃ draft, t.Saved (Path.sidecar "o.go") draft rejected.2) ∧
    done.1.exit = 0 ∧ done.1.stdout = "" ∧ ∃ source, t.Saved "o.go" source done.2 := by
  intro t rejected done
  let wrong : Settings := { model := "m", out := "o.go", package := "1" }
  let right : Settings := { model := "m", out := "o.go" }
  have hw : configure .standard {} ["-package", "1", "-out", "o.go", "m"] t = .ok wrong := by
    decide +kernel
  have hr : configure .standard {} ["-out", "o.go", "m"] t = .ok right := by decide +kernel
  have toFile : wrong.destination = .file "o.go" ∧ right.destination = .file "o.go" := by decide
  obtain ⟨fails, left⟩ : rejected.1.exit ≠ 0 ∧
      rejected.2.file? ["o.unformatted.go"] ≠ t.file? ["o.unformatted.go"] := by
    decide +kernel
  have ends : done.1.exit = 0 := by decide +kernel
  have rejection :=
    (run_writes_only_output .standard {} ["-package", "1", "-out", "o.go", "m"] t
      (Prod.eta rejected).symm).1 fails
  have completion :=
    (run_writes_only_output .standard {} ["-out", "o.go", "m"] t
      (Prod.eta done).symm).2.2.2.2 right "o.go" hr toFile.2 ends
  obtain ⟨silent, kept | ⟨s, path, p, draft, same, destination, -, -, saved, -⟩⟩ := rejection
  · exact absurd (congrFun kept _) left
  · obtain ⟨quiet, p', source, -, -, stored⟩ := completion
    cases hw.symm.trans same
    cases toFile.1.symm.trans destination
    exact ⟨⟨fails, silent, draft, saved⟩, ends, quiet, source, stored⟩

end ModelCompiler
