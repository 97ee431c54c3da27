import ModelCompiler.Proofs.Command.Run

/-!
# What a run does not depend on

The plan and its source do not depend on where the source goes, nor on what is logged.  Main
statement: switching the log or the listing on or off changes nothing that a run leaves behind but
the log, and a run to a file ends as the run to the standard output does, with the text in the file
that the other one prints (`run_independent_of_log`).
-/

namespace ModelCompiler

variable {l : Libraries}

/-- What two results have in common that a function does not tell apart. -/
theorem map_eq_map_cases {ε α β : Type} {f : α → β} {x y : Except ε α} (h : x.map f = y.map f) :
    (∃ e, x = .error e ∧ y = .error e) ∨ ∃ a b, x = .ok a ∧ y = .ok b ∧ f a = f b := by
  cases x with
  | error e =>
    cases y with
    | error e' =>
      cases h
      exact Or.inl ⟨e, rfl, rfl⟩
    | ok b => cases h
  | ok a =>
    cases y with
    | error e => cases h
    | ok b => exact Or.inr ⟨a, b, rfl, rfl, Except.ok.inj h⟩

namespace Settings

/-- The settings without what they say about the log. -/
def quiet (s : Settings) : Settings := { s with dump := false, verbose := false }

/-- The settings that a source depends on. -/
def core (s : Settings) : Settings := { s.quiet with out := ({} : Settings).out }

theorem result_core (s : Settings) (l : Libraries) (t : FileTree) :
    s.core.result l t = s.result l t := by
  have planned : s.core.plan l t = s.plan l t := rfl
  rw [result_eq, result_eq, planned]
  rfl

theorem core_eq_of_quiet_eq {s s' : Settings} (h : s.quiet = s'.quiet) : s.core = s'.core := by
  rw [core, h, core]

theorem result_eq_of_core_eq {s s' : Settings} (h : s.core = s'.core) (l : Libraries)
    (t : FileTree) : s.result l t = s'.result l t := by
  rw [← result_core, h, result_core]

/-! ## Arguments -/

theorem quiet_setSwitch_eq_quiet (s : Settings) {f : Switch} (h : f ≠ .strict) (on : Bool) :
    (s.setSwitch f on).quiet = s.quiet := by
  cases f with
  | strict => exact absurd rfl h
  | dump => rfl
  | verbose => rfl

theorem quiet_setSwitch_congr {s s' : Settings} (h : s.quiet = s'.quiet) (f : Switch) (on : Bool) :
    (s.setSwitch f on).quiet = (s'.setSwitch f on).quiet := by
  have same (s : Settings) : (s.setSwitch f on).quiet = (s.quiet.setSwitch f on).quiet := by
    cases f <;> rfl
  rw [same, h, ← same]

theorem quiet_setParameter_congr {s s' : Settings} (h : s.quiet = s'.quiet) (f : Parameter)
    (text : String) : (s.setParameter f text).quiet = (s'.setParameter f text).quiet := by
  have same (s : Settings) : (s.setParameter f text).quiet = s.quiet.setParameter f text := by
    cases f <;> rfl
  rw [same, h, ← same]

/-- What is left of some settings and further arguments when the log is not looked at. -/
def hush (r : Settings × List String) : Settings × List String := (r.1.quiet, r.2)

/-- Flags are read without a look at the settings, so what the settings say about the log decides
neither which error there is nor which arguments are left. -/
theorem readFlags_quiet (args : List String) {s s' : Settings} (h : s.quiet = s'.quiet) :
    (readFlags args s).map hush = (readFlags args s').map hush := by
  have done (rest : List String) : hush (s, rest) = hush (s', rest) := congrArg (·, rest) h
  -- only the cases that end well or read on mention the settings
  fun_induction readFlags args s generalizing s' with
  | case1 s => exact congrArg Except.ok (done [])
  | case2 arg rest s plain =>
    rw [readFlags, plain]
    exact congrArg Except.ok (done (arg :: rest))
  | case3 arg rest s divider =>
    rw [readFlags, divider]
    exact congrArg Except.ok (done rest)
  | case6 arg rest s name value? flag f known on value ih =>
    rw [readFlags, flag]
    simp only [known, value]
    have next := quiet_setSwitch_congr h f on
    exact ih next fun _ => congrArg (·, _) next
  | case8 arg rest s name f known text flag ih =>
    rw [readFlags, flag]
    simp only [known]
    have next := quiet_setParameter_congr h f text
    exact ih next fun _ => congrArg (·, _) next
  | case9 arg s name f known text rest flag ih =>
    rw [readFlags, flag]
    simp only [known]
    have next := quiet_setParameter_congr h f text
    exact ih next fun _ => congrArg (·, _) next
  | _ => simp only [readFlags, *]

theorem lack?_quiet (s : Settings) : s.quiet.lack? = s.lack? := rfl

theorem withArguments_quiet (args : List String) {s s' : Settings} (h : s.quiet = s'.quiet) :
    (s.withArguments args).map quiet = (s'.withArguments args).map quiet := by
  unfold withArguments
  obtain ⟨e, he, he'⟩ | ⟨⟨q, rest⟩, ⟨q', rest'⟩, hq, hq', read⟩ :=
    map_eq_map_cases (readFlags_quiet args h)
  · rw [he, he']
  · rw [hq, hq']
    have same : q.quiet = q'.quiet := congrArg Prod.fst read
    obtain rfl : rest = rest' := congrArg Prod.snd read
    have model : q.model = q'.model := by
      change q.quiet.model = q'.quiet.model
      rw [same]
    have named := quiet_setParameter_congr same .model (rest.head?.getD q.model)
    have lack := lack?_quiet (q.setParameter .model (rest.head?.getD q.model))
    rw [named, lack?_quiet] at lack
    simp only [setParameter, model] at named lack ⊢
    -- too many arguments are an error whatever the settings, and what is lacking is not in the log
    split
    · rfl
    · rw [lack]
      split
      · rfl
      · exact congrArg Except.ok named

end Settings

/-! ## Runs -/

/-- Two runs leave the same behind, but for what they log. -/
structure EndAlike (r r' : Outcome × FileTree) : Prop where
  exit : r'.1.exit = r.1.exit
  stdout : r'.1.stdout = r.1.stdout
  tree : r'.2 = r.2

/-- An argument that switches a flag on or off. -/
def Switches (arg : String) (f : Switch) (on : Bool) : Prop :=
  ∃ value?, Argument.ofChars arg.toList = .flag (Flag.switch f).name value? ∧
    truthValue? (value?.getD "true") = some on

theorem withArguments_cons {arg : String} {f : Switch} {on : Bool} (h : Switches arg f on)
    (args : List String) (s : Settings) :
    s.withArguments (arg :: args) = (s.setSwitch f on).withArguments args := by
  obtain ⟨value?, flag, value⟩ := h
  have read : Settings.readFlags (arg :: args) s =
      Settings.readFlags args (s.setSwitch f on) := by
    rw [Settings.readFlags, flag]
    simp only [Flag.ofName?_name, value]
  rw [Settings.withArguments, read, Settings.withArguments]

/-- Where the source goes, and whether there is one, decides all that is not logged. -/
theorem deliver_alike {c c' : Compilation} (h : c.result = c'.result) (destination : Destination)
    (t : FileTree) :
    EndAlike (deliver (m := StateM FileTree) destination c t)
      (deliver (m := StateM FileTree) destination c' t) := by
  cases hc : c.result with
  | error f =>
    have hc' := h.symm.trans hc
    cases destination with
    | stdout =>
      rw [deliver_error_stdout t hc, deliver_error_stdout t hc']
      exact ⟨rfl, rfl, rfl⟩
    | file path =>
      rw [deliver_error_file t hc, deliver_error_file t hc']
      exact ⟨rfl, rfl, rfl⟩
  | ok r =>
    have hc' := h.symm.trans hc
    cases destination with
    | stdout =>
      rw [deliver_ok_stdout t hc, deliver_ok_stdout t hc']
      exact ⟨rfl, rfl, rfl⟩
    | file path =>
      rw [deliver_ok_file t hc, deliver_ok_file t hc']
      split <;> exact ⟨rfl, rfl, rfl⟩

section

variable {process process' : Environment} {args args' : List String} {t : FileTree}
  {s s' : Settings}

/-- Settings that differ in what they say about the log give runs that end alike. -/
theorem run_alike (hs : configure l process args t = .ok s)
    (hs' : configure l process' args' t = .ok s') (h : s.quiet = s'.quiet) :
    EndAlike (run (m := StateM FileTree) l process args t)
      (run (m := StateM FileTree) l process' args' t) := by
  have there : s.destination = s'.destination := by
    change s.quiet.destination = s'.quiet.destination
    rw [h]
  have result : s.result l t = s'.result l t :=
    Settings.result_eq_of_core_eq (Settings.core_eq_of_quiet_eq h) l t
  rw [run_eq, run_eq, hs, hs']
  simp only [there]
  exact deliver_alike result s'.destination t

/-- An argument about the log in front of all others lets a run end as it does without it. -/
theorem run_cons_alike {arg : String} {f : Switch} {on : Bool} (h : Switches arg f on)
    (hf : f ≠ .strict) :
    EndAlike (run (m := StateM FileTree) l process args t)
      (run (m := StateM FileTree) l process (arg :: args) t) := by
  cases hd : (readSettings (m := StateM FileTree) l process t).1 with
  | error e =>
    have stopped (args : List String) : configure l process args t = .error (.failed "" e) := by
      rw [configure, hd]
    rw [run_eq, run_eq, stopped, stopped]
    exact ⟨rfl, rfl, rfl⟩
  | ok defaults =>
    have configured (args : List String) : configure l process args t =
        (defaults.withArguments args).mapError (.misused defaults) := by
      rw [configure, hd]
    have quiet : (defaults.withArguments args).map Settings.quiet =
        (defaults.withArguments (arg :: args)).map Settings.quiet := by
      rw [withArguments_cons h]
      exact Settings.withArguments_quiet args (defaults.quiet_setSwitch_eq_quiet hf on).symm
    obtain ⟨e, he, he'⟩ | ⟨s, s', hs, hs', same⟩ := map_eq_map_cases quiet
    · rw [run_eq, run_eq, configured, configured, he, he']
      exact ⟨rfl, rfl, rfl⟩
    · have here : configure l process args t = .ok s := by
        rw [configured, hs]
        rfl
      have there : configure l process (arg :: args) t = .ok s' := by
        rw [configured, hs']
        rfl
      exact run_alike here there same

/-- A run to a file ends as the run to the standard output does, with what that one prints in the
file. -/
theorem run_to_file {path : String} (hs : configure l process args t = .ok s)
    (hs' : configure l process' args' t = .ok s') (h : s.core = s'.core)
    (printed : s.destination = .stdout) (filed : s'.destination = .file path)
    (saves : ∀ text, (save (m := StateM FileTree) path text t).1 = .ok ()) :
    (run (m := StateM FileTree) l process' args' t).1.exit =
        (run (m := StateM FileTree) l process args t).1.exit ∧
      (run (m := StateM FileTree) l process args t).2 = t ∧
      ((run (m := StateM FileTree) l process args t).1.exit = 0 →
        t.Saved path (run (m := StateM FileTree) l process args t).1.stdout
          (run (m := StateM FileTree) l process' args' t).2) := by
  have result : s.result l t = s'.result l t := Settings.result_eq_of_core_eq h l t
  rw [run_eq, run_eq, hs, hs']
  simp only [printed, filed]
  cases hc : s.result l t with
  | error e =>
    rw [deliver_error_stdout t hc, deliver_error_file t (result.symm.trans hc)]
    exact ⟨rfl, rfl, nofun⟩
  | ok r =>
    obtain ⟨p, source⟩ := r
    rw [deliver_ok_stdout t hc, deliver_ok_file t (result.symm.trans hc)]
    obtain ⟨t', done, saved⟩ | ⟨e, t', failed, -⟩ := saved_or_kept path source t
    · rw [done]
      exact ⟨rfl, rfl, fun _ => saved⟩
    · have := saves source
      rw [failed] at this
      cases this

end

/-- Whatever the libraries do, the log and the destination have no influence on the source: an
argument about the log changes nothing that is not logged, nor do settings that differ in what they
say about the log, and a run to a file succeeds where the run to the standard output does and leaves
in the file what that one prints. -/
theorem run_independent_of_log (l : Libraries) (t : FileTree) :
    (∀ process args arg f on, Switches arg f on → f ≠ .strict →
      EndAlike (run (m := StateM FileTree) l process args t)
        (run (m := StateM FileTree) l process (arg :: args) t)) ∧
    (∀ process args process' args' s s', configure l process args t = .ok s →
      configure l process' args' t = .ok s' → s.quiet = s'.quiet →
      EndAlike (run (m := StateM FileTree) l process args t)
        (run (m := StateM FileTree) l process' args' t)) ∧
    ∀ process args process' args' s s' path, configure l process args t = .ok s →
      configure l process' args' t = .ok s' → s.core = s'.core → s.destination = .stdout →
      s'.destination = .file path →
      (∀ text, (save (m := StateM FileTree) path text t).1 = .ok ()) →
      (run (m := StateM FileTree) l process' args' t).1.exit =
          (run (m := StateM FileTree) l process args t).1.exit ∧
        (run (m := StateM FileTree) l process args t).2 = t ∧
        ((run (m := StateM FileTree) l process args t).1.exit = 0 →
          t.Saved path (run (m := StateM FileTree) l process args t).1.stdout
            (run (m := StateM FileTree) l process' args' t).2) := by
  refine ⟨?_, ?_, ?_⟩
  · intro process args arg f on switches aboutLog
    exact run_cons_alike switches aboutLog
  · intro process args process' args' s s' hs hs' same
    exact run_alike hs hs' same
  · intro process args process' args' s s' path hs hs' same printed filed saves
    exact run_to_file hs hs' same printed filed saves

/-- A class of simple attributes with an association with itself, and a generalization that leads
nowhere. -/
def carPark : String := .ofList <|
  ["<m><Class id='car'><name><val>Car</val></name>",
   "<appliedStereotype><ref refid='applied'/>",
   "</appliedStereotype></Class>",
   "<InstanceSpecification id='applied'>",
   "<classifier><ref refid='simple'/></classifier>",
   "</InstanceSpecification><Stereotype id='simple'>",
   "<name><val>SimpleAttribute</val></name></Stereotype>",
   "<Property id='x'><name><val>next</val></name>",
   "<class_><ref refid='car'/></class_>",
   "<type><ref refid='car'/></type></Property>",
   "<Property id='y'><type><ref refid='car'/></type>",
   "</Property><Association id='xy'><memberEnd>",
   "<reflist><ref refid='x'/><ref refid='y'/></reflist>",
   "</memberEnd></Association>",
   "<Generalization id='up'/></m>"].flatMap String.toList

/-- The graph that it describes. -/
def exhibits : Graph where
  elements :=
    [⟨"car", "Class", [("name", .scalar "Car"), ("appliedStereotype", .ref "applied")]⟩,
     ⟨"applied", "InstanceSpecification", [("classifier", .ref "simple")]⟩,
     ⟨"simple", "Stereotype", [("name", .scalar "SimpleAttribute")]⟩,
     ⟨"x", "Property", [("name", .scalar "next"), ("class_", .ref "car"), ("type", .ref "car")]⟩,
     ⟨"y", "Property", [("type", .ref "car")]⟩,
     ⟨"xy", "Association", [("memberEnd", .refList ["x", "y"])]⟩,
     ⟨"up", "Generalization", []⟩]
  ids_nodup := by decide
  ids_ne := by decide

theorem ofDocument_ofList (cs : List Char) :
    Graph.ofDocument (.ofList cs) =
      Reading.run (Markup.scanFrom (cs.length + 1) [] cs).complete .before
        (Markup.scanFrom (cs.length + 1) [] cs).tokens := by
  rw [Graph.ofDocument, Markup.scan, String.toList_ofList]

theorem ofDocument_carPark : Graph.ofDocument carPark = .ok exhibits := by
  have elements : (Graph.ofDocument carPark).map Graph.elements = .ok exhibits.elements :=
    (congrArg (Except.map Graph.elements) (ofDocument_ofList _)).trans (by decide +kernel)
  cases read : Graph.ofDocument carPark with
  | error e =>
    rw [read] at elements
    cases elements
  | ok g =>
    rw [read] at elements
    obtain ⟨es, distinct, named⟩ := g
    obtain rfl : es = exhibits.elements := Except.ok.inj elements
    rfl

/-- The tree whose only file is a model. -/
def onlyModel (document : String) : FileTree := ⟨[(["m"], .file document)]⟩

theorem readModel_onlyModel (document : String) :
    (readModel (m := StateM FileTree) "m" (onlyModel document)).1 =
      (Graph.ofDocument document).mapError (.model "m") := rfl

theorem save_onlyModel (document text : String) :
    (save (m := StateM FileTree) "o.go" text (onlyModel document)).1 = .ok () := rfl

theorem readPolicy_empty (l : Libraries) (t : FileTree) :
    readPolicy (m := StateM FileTree) l "" t = (.ok .none, t) := rfl

/-- What is compiled of the car park, whatever is said about the log. -/
theorem compileFiles_carPark {s : Settings} (core : s.core = { model := "m" }) :
    (compileFiles (m := StateM FileTree) .standard s (onlyModel carPark)).1 =
      compile .standard s exhibits .none := by
  have model : s.model = "m" := congrArg Settings.model core
  have overrides : s.overrides = "" := congrArg Settings.overrides core
  have read : (readModel (m := StateM FileTree) "m" (onlyModel carPark)).1 = .ok exhibits := by
    rw [readModel_onlyModel, ofDocument_carPark]
    rfl
  rw [compileFiles, model, overrides, (ReadsOnly.readModel "m").bind_eq, read]
  simp only [bind_apply, readPolicy_empty, pure_apply]

theorem result_carPark {s : Settings} (core : s.core = { model := "m" }) :
    ∃ p source, s.result .standard (onlyModel carPark) = .ok (p, source) := by
  have made : ((resolve exhibits .none {}).settled.bind
      ({} : Settings).generated).toOption.isSome = true := by
    decide +kernel
  have result : s.result .standard (onlyModel carPark) =
      (resolve exhibits .none {}).settled.bind ({} : Settings).generated := by
    have conventions : ({ model := "m" } : Settings).conventions = {} := rfl
    have generated : ({ model := "m" } : Settings).generated = ({} : Settings).generated := rfl
    rw [← Settings.result_core, core, Settings.result, compileFiles_carPark rfl,
      Settings.result_compile, conventions, generated]
  rw [← result] at made
  cases compiled : s.result .standard (onlyModel carPark) with
  | error f =>
    rw [compiled] at made
    cases made
  | ok r => exact ⟨r.1, r.2, rfl⟩

/-- A report is logged with as much of it as is asked for, and with the ends if they are. -/
theorem log_compile {s : Settings} {g : Graph} {policy : Policy}
    (fine : (resolve g policy s.conventions).fault? = none) :
    (compile l s g policy).log =
      (resolve g policy s.conventions).plan.journal.report.log s.verbose ++
        if s.dump then l.listing (resolve g policy s.conventions).plan.summaries else "" := by
  rw [compile, fine]
  cases s.dump <;> simp

/-- A visit to the car park. -/
def visit (args : List String) : Outcome × FileTree :=
  run (m := StateM FileTree) .standard {} args (onlyModel carPark)

/-- A visit that prints what is made of the car park ends well and logs what there is to log. -/
theorem visit_eq {args : List String} {s : Settings}
    (configured : configure .standard {} args (onlyModel carPark) = .ok s)
    (core : s.core = { model := "m" }) (printed : s.destination = .stdout) :
    (visit args).1.exit = 0 ∧
      (visit args).1.stderr = (resolve exhibits .none {}).plan.journal.report.log s.verbose ++
        if s.dump then EndSummary.listing (resolve exhibits .none {}).plan.summaries else "" := by
  obtain ⟨p, source, result⟩ := result_carPark core
  have conventions : s.conventions = {} := congrArg Settings.conventions core
  have fine : (resolve exhibits .none s.conventions).fault? = none := by
    rw [conventions]
    decide +kernel
  have log := log_compile (l := .standard) fine
  rw [conventions] at log
  rw [visit, run_eq, configured]
  simp only [printed]
  rw [deliver_ok_stdout _ result, compileFiles_carPark core, log]
  generalize resolve exhibits .none {} = r
  exact ⟨rfl, rfl⟩

/-- Visits to the car park with a log, with a listing and to a file.  The source is the same each
time, though there is more to log. -/
theorem run_independent_of_log_carPark :
    EndAlike (visit ["m"]) (visit ["-v=true", "m"]) ∧
    EndAlike (visit ["m"]) (visit ["-dump", "m"]) ∧
    (visit ["m"]).1.exit = 0 ∧
    (onlyModel carPark).Saved "o.go" (visit ["m"]).1.stdout
      (visit ["-dump", "-out", "o.go", "m"]).2 ∧
    (visit ["m"]).1.stderr =
      "warning: [up]: [unknown_class] generalization  ->  does not link two classes\n" ∧
    (visit ["-v=true", "m"]).1.stderr =
      "warning: [up]: [unknown_class] generalization  ->  does not link two classes\n" ++
      "info: [car] Car: [stereotype] stereotyped as 'SimpleAttribute'\n" ∧
    (visit ["-dump", "m"]).1.stderr = (visit ["m"]).1.stderr ++ EndSummary.listing
      [{ property := "x", qualified := "Car.next", role := .simpleAttribute, bounds := ⟨"0", "*"⟩ },
       { property := "y", role := .nonNavigable }] := by
  have plain : configure .standard {} ["m"] (onlyModel carPark) = .ok { model := "m" } := by
    decide +kernel
  have verbose : configure .standard {} ["-v=true", "m"] (onlyModel carPark) =
      .ok { model := "m", verbose := true } := by
    decide +kernel
  have listed : configure .standard {} ["-dump", "m"] (onlyModel carPark) =
      .ok { model := "m", dump := true } := by
    decide +kernel
  have filed : configure .standard {} ["-dump", "-out", "o.go", "m"] (onlyModel carPark) =
      .ok { model := "m", out := "o.go", dump := true } := by
    decide +kernel
  have switches : Switches "-v=true" .verbose true := ⟨some "true", by decide, by decide⟩
  have saves (text : String) :
      (save (m := StateM FileTree) "o.go" text (onlyModel carPark)).1 = .ok () :=
    save_onlyModel carPark text
  obtain ⟨ends, warned⟩ := visit_eq plain rfl rfl
  obtain ⟨-, told⟩ := visit_eq verbose rfl rfl
  obtain ⟨-, shown⟩ := visit_eq listed rfl rfl
  have warning : (resolve exhibits .none {}).plan.journal.report.log false =
      "warning: [up]: [unknown_class] generalization  ->  does not link two classes\n" := by
    decide +kernel
  have info : (resolve exhibits .none {}).plan.journal.report.log true =
      "warning: [up]: [unknown_class] generalization  ->  does not link two classes\n" ++
      "info: [car] Car: [stereotype] stereotyped as 'SimpleAttribute'\n" := by
    decide +kernel
  have summaries : (resolve exhibits .none {}).plan.summaries =
      [{ property := "x", qualified := "Car.next", role := .simpleAttribute, bounds := ⟨"0", "*"⟩ },
       { property := "y", role := .nonNavigable }] := by
    decide +kernel
  simp only [warning, info, summaries, Bool.false_eq_true, if_false, if_true, String.append_empty]
    at warned told shown
  obtain ⟨prefixed, dumped, delivered⟩ := run_independent_of_log .standard (onlyModel carPark)
  unfold visit at ends warned told shown ⊢
  refine ⟨prefixed {} ["m"] "-v=true" .verbose true switches (by decide),
    dumped {} ["m"] {} ["-dump", "m"] _ _ plain listed (by decide), ends,
    (delivered {} ["m"] {} ["-dump", "-out", "o.go", "m"] _ _ "o.go" plain filed
      (by decide) (by decide) (by decide) saves).2.2 ends, warned, told, ?_⟩
  rw [shown, warned]

end ModelCompiler
