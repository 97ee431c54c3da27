import ModelCompiler.Proofs.Schema.Declarations
import ModelCompiler.Proofs.Source.Expression

/-!
# Running a file

A file is a program for the schema library.  Its variables make classes, one for each identifier,
and its statements are evaluated in order on the schema of these: what is called is looked up by
name among the functions of the library and the methods of classes.  Variables keep their values, so
what a statement refers to does not depend on when it is run; the lemmas here reduce a run of
statements to a run of declarations on a schema.
-/

namespace ModelCompiler.Source

open Schema (ClassId PropertyId EnumerationType Construction Declaration holding)

/-- Why a run stops: at a variable that is not declared, at a call that does not fit what is called,
or at what the schema library refuses. -/
inductive RunError where
  | undeclared (ident : String)
  | unfit (function : String)
  | refused (why : Schema.Refusal)
deriving DecidableEq, Repr

/-! ## Values -/

/-- What an expression stands for. -/
inductive Value where
  | library
  | class (c : ClassId)
  | enumeration (e : EnumerationType)
  | text (s : String)
  | setting (x : Schema.Setting)
  | property (p? : Option PropertyId)
  /-- The value of a call that gives none. -/
  | nothing
deriving DecidableEq, Repr

namespace Value

def setting? : Value → Option Schema.Setting
  | .setting x => some x
  | _ => none

def property? : Value → Option (Option PropertyId)
  | .property p? => some p?
  | _ => none

end Value

namespace Library

/-- The setting that a function of the library gives. -/
def setting? : String → List Value → Option Schema.Setting
  | "Bounds", [.text lower, .text upper] => some (.bounds lower upper)
  | "Default", [.text v] => some (.default v)
  | "Composite", [] => some .composite
  | "Derived", [] => some .derived
  | "Opposite", [.text n] => some (.opposite n)
  | _, _ => none

/-- The property that a function of the library makes, with the settings that come last. -/
def construction? : String → List Value → Option Construction
  | "NewAttribute", .text name :: .text type :: more =>
    (more.mapM Value.setting?).map (.attribute name type)
  | "NewEnumerationAttribute", .text name :: .enumeration e :: more =>
    (more.mapM Value.setting?).map (.enumeration name (some e))
  | "NewAssociation", .text name :: .class c :: more =>
    (more.mapM Value.setting?).map (.association name (some c))
  | "NewDerivedUnion", .text name :: .class c :: more =>
    (more.mapM Value.setting?).map (.derivedUnion name (some c))
  | "NewRedefine", .text name :: .class c :: .text redefines :: more =>
    (more.mapM Value.setting?).map (.redefinition name (some c) redefines)
  | _, _ => none

/-- The derived union and the members to add to it. -/
def subsets? : String → List Value → Option (Option PropertyId × List (Option PropertyId))
  | "Subsets", .property union? :: members => (members.mapM Value.property?).map (union?, ·)
  | _, _ => none

/-- Calls a function of the library. -/
def call (s : Schema) (function : String) (arguments : List Value) :
    Except RunError (Value × Schema) :=
  match setting? function arguments with
  | some x => .ok (.setting x, s)
  | none => match construction? function arguments with
    | some c => .ok (.property (some (s.makeProperty c).2), (s.makeProperty c).1)
    | none => match subsets? function arguments with
      | some (union?, members) =>
        ((s.subset union? members).mapError .refused).map (.nothing, ·)
      | none => .error (.unfit function)

end Library

/-- Calls a function of what a receiver stands for. -/
def Value.call (s : Schema) : Value → String → List Value → Except RunError (Value × Schema)
  | .library, function, arguments => Library.call s function arguments
  | .class c, "Add", [.property (some p)] =>
    ((s.add c p).mapError .refused).map (.property (some p), ·)
  | .class c, "AddOperation", [.text n] => .ok (.nothing, s.addOperation c n)
  | .class c, "Property", [.text n] => .ok (.property (s.lookup? c n), s)
  | _, function, _ => .error (.unfit function)

namespace File

/-- The class that a variable stands for. Classes are numbered in the order of their variables. -/
def class? (f : File) (ident : String) : Option ClassId := f.classes.findIdx? (·.ident == ident)

def enumeration? (f : File) (ident : String) : Option EnumerationType :=
  (f.enumerations.find? (·.ident == ident)).map fun e => { name := e.name, literals := e.literals }

/-- What an identifier stands for. -/
def value (f : File) (ident : String) : Except RunError Value :=
  if ident = f.qualifier then .ok .library
  else match f.class? ident, f.enumeration? ident with
    | some c, _ => .ok (.class c)
    | none, some e => .ok (.enumeration e)
    | none, none => .error (.undeclared ident)

mutual

/-- Evaluates an expression: the receiver of a call, its arguments, and then the call. -/
def eval (f : File) : Expr → Schema → Except RunError (Value × Schema)
  | .name ident, s => (f.value ident).map (·, s)
  | .text t, s => .ok (.text t, s)
  | .call receiver function arguments, s => do
    let (v, s) ← f.eval receiver s
    let (vs, s) ← f.evalAll arguments s
    v.call s function vs

/-- Evaluates expressions one after the other. -/
def evalAll (f : File) : List Expr → Schema → Except RunError (List Value × Schema)
  | [], s => .ok ([], s)
  | e :: es, s => do
    let (v, s) ← f.eval e s
    let (vs, s) ← f.evalAll es s
    return (v :: vs, s)

end

/-- Runs a statement. -/
def exec (f : File) (s : Schema) (e : Expr) : Except RunError Schema := (f.eval e s).map (·.2)

/-- Runs statements one after the other. -/
def run (f : File) (es : List Expr) (s : Schema) : Except RunError Schema := es.foldlM f.exec s

/-- The classes of the variables, before anything is declared on them. -/
def bare (f : File) : Schema :=
  f.classes.foldl (fun s d => (s.makeClass d.name (d.generals.filterMap f.class?)).1) {}

def runProperties (f : File) : Except RunError Schema :=
  f.run (f.properties.map (·.expr f.qualifier)) f.bare

def runSubsets (f : File) (s : Schema) : Except RunError Schema :=
  f.run (f.subsets.map (·.expr f.qualifier)) s

def runOperations (f : File) (s : Schema) : Except RunError Schema :=
  f.run (f.operations.map (·.expr)) s

/-- The property that is found, if any. -/
def find (f : File) (s : Schema) (l : PropertyLookup) : Except RunError (Option PropertyId) :=
  match f.class? l.owner with
  | none => .error (.undeclared l.owner)
  | some c => .ok (s.lookup? c l.name)

/-! ## Evaluation -/

/-- No identifier stands for two things. -/
structure Distinct (f : File) : Prop where
  class_ne : ∀ {x c}, f.class? x = some c → x ≠ f.qualifier
  enumeration_ne : ∀ {x e}, f.enumeration? x = some e → x ≠ f.qualifier
  no_class : ∀ {x e}, f.enumeration? x = some e → f.class? x = none

section Evaluation

variable {f : File} {s s' s'' : Schema}

theorem eval_library : f.eval (.name f.qualifier) s = .ok (.library, s) := by
  rw [eval, value, if_pos rfl]
  rfl

theorem eval_class (distinct : f.Distinct) {x : String} {c : ClassId} (h : f.class? x = some c) :
    f.eval (.name x) s = .ok (.class c, s) := by
  rw [eval, value, if_neg (distinct.class_ne h), h]
  rfl

theorem eval_enumeration (distinct : f.Distinct) {x : String} {e : EnumerationType}
    (h : f.enumeration? x = some e) : f.eval (.name x) s = .ok (.enumeration e, s) := by
  rw [eval, value, if_neg (distinct.enumeration_ne h), distinct.no_class h, h]
  rfl

theorem evalAll_nil : f.evalAll [] s = .ok ([], s) := by rw [evalAll]

theorem evalAll_cons {e : Expr} {es : List Expr} {v : Value} {vs : List Value}
    (he : f.eval e s = .ok (v, s')) (hes : f.evalAll es s' = .ok (vs, s'')) :
    f.evalAll (e :: es) s = .ok (v :: vs, s'') := by
  rw [evalAll, he]
  simp only [bind, Except.bind, hes]
  rfl

theorem eval_call {receiver : Expr} (function : String) {arguments : List Expr} {v : Value}
    {vs : List Value} (hr : f.eval receiver s = .ok (v, s'))
    (ha : f.evalAll arguments s' = .ok (vs, s'')) :
    f.eval (.call receiver function arguments) s = v.call s'' function vs := by
  rw [eval, hr]
  simp only [bind, Except.bind, ha]

theorem evalAll_text (t : String) {es : List Expr} {vs : List Value}
    (h : f.evalAll es s = .ok (vs, s')) :
    f.evalAll (.text t :: es) s = .ok (.text t :: vs, s') := evalAll_cons (by rw [eval]) h

end Evaluation

end File

/-! ## Settings and terms -/

/-- The setting of the library that is asked for. -/
def Setting.made : Setting → Schema.Setting
  | .bounds lower upper => .bounds lower upper
  | .default v => .default v
  | .composite => .composite
  | .derived => .derived
  | .opposite n => .opposite n

theorem mapM_setting? (xs : List Schema.Setting) :
    (xs.map Value.setting).mapM Value.setting? = some xs := by
  induction xs with
  | nil => rfl
  | cons x xs ih =>
    rw [List.map_cons, List.mapM_cons, ih]
    rfl

namespace File

/-- The call of the library that makes what a term says, if its variables have values. -/
def construction? (f : File) (t : PropertyTerm) : Option Construction :=
  let settings := t.settings.map Setting.made
  match t.shape with
  | .attribute type => some (.attribute t.name type settings)
  | .enumeration e => (f.enumeration? e).map fun v => .enumeration t.name (some v) settings
  | .association c => (f.class? c).map fun k => .association t.name (some k) settings
  | .derivedUnion c => (f.class? c).map fun k => .derivedUnion t.name (some k) settings
  | .redefinition c r => (f.class? c).map fun k => .redefinition t.name (some k) r settings

/-- The declaration that a statement stands for, if its variables have values. -/
def declaration? (f : File) (a : AddStatement) : Option Declaration := do
  let owner ← f.class? a.owner
  let term ← f.construction? a.term
  return { owner, term }

section Evaluation

variable {f : File} {s : Schema}

theorem eval_setting (x : Setting) : f.eval (x.expr f.qualifier) s = .ok (.setting x.made, s) := by
  cases x with
  | bounds lower upper =>
    exact eval_call _ eval_library (evalAll_text lower (evalAll_text upper evalAll_nil))
  | default v => exact eval_call _ eval_library (evalAll_text v evalAll_nil)
  | composite => exact eval_call _ eval_library evalAll_nil
  | derived => exact eval_call _ eval_library evalAll_nil
  | opposite n => exact eval_call _ eval_library (evalAll_text n evalAll_nil)

theorem evalAll_settings (xs : List Setting) :
    f.evalAll (xs.map (·.expr f.qualifier)) s =
      .ok ((xs.map Setting.made).map Value.setting, s) := by
  induction xs with
  | nil => exact evalAll_nil
  | cons x xs ih => exact evalAll_cons (eval_setting x) ih

/-- The expression for a term makes the property that the term stands for. -/
theorem eval_term (distinct : f.Distinct) {t : PropertyTerm} {c : Construction}
    (h : f.construction? t = some c) :
    f.eval (t.expr f.qualifier) s =
      .ok (.property (some (s.makeProperty c).2), (s.makeProperty c).1) := by
  obtain ⟨name, shape, settings⟩ := t
  have last := evalAll_settings (f := f) (s := s) settings
  have made := mapM_setting? (settings.map Setting.made)
  -- the call of the library, with the arguments that the shape asks for
  have called {function : String} {es : List Expr} {vs : List Value}
      (shaped : shape.expr = (function, es))
      (args : f.evalAll (.text name :: es ++ settings.map (·.expr f.qualifier)) s = .ok (vs, s))
      (noSetting : Library.setting? function vs = none)
      (fits : Library.construction? function vs = some c) :
      f.eval (PropertyTerm.expr f.qualifier ⟨name, shape, settings⟩) s =
        .ok (.property (some (s.makeProperty c).2), (s.makeProperty c).1) := by
    rw [PropertyTerm.expr, shaped]
    refine (eval_call _ eval_library args).trans ?_
    rw [Value.call, Library.call, noSetting, fits]
  rcases shape with type | e | k | k | ⟨k, r⟩
  · cases h
    refine called rfl (evalAll_text name (evalAll_text type last)) rfl ?_
    simp only [Library.construction?, made, Option.map_some]
  · obtain ⟨v, hv, rfl⟩ := Option.map_eq_some_iff.1 h
    refine called rfl (evalAll_text name (evalAll_cons (eval_enumeration distinct hv) last)) rfl ?_
    simp only [Library.construction?, made, Option.map_some]
  · obtain ⟨v, hv, rfl⟩ := Option.map_eq_some_iff.1 h
    refine called rfl (evalAll_text name (evalAll_cons (eval_class distinct hv) last)) rfl ?_
    simp only [Library.construction?, made, Option.map_some]
  · obtain ⟨v, hv, rfl⟩ := Option.map_eq_some_iff.1 h
    refine called rfl (evalAll_text name (evalAll_cons (eval_class distinct hv) last)) rfl ?_
    simp only [Library.construction?, made, Option.map_some]
  · obtain ⟨v, hv, rfl⟩ := Option.map_eq_some_iff.1 h
    refine called rfl (evalAll_text name
      (evalAll_cons (eval_class distinct hv) (evalAll_text r last))) rfl ?_
    simp only [Library.construction?, made, Option.map_some]

/-- A statement for a property makes it and declares it. -/
theorem exec_add (distinct : f.Distinct) {a : AddStatement} {d : Declaration}
    (h : f.declaration? a = some d) :
    f.exec s (a.expr f.qualifier) = (s.declare d).mapError .refused := by
  obtain ⟨c, hc, h⟩ := Option.bind_eq_some_iff.1 h
  obtain ⟨t, ht, h⟩ := Option.bind_eq_some_iff.1 h
  cases h
  have called := eval_call "Add" (eval_class (s := s) distinct hc)
    (evalAll_cons (eval_term distinct ht) evalAll_nil)
  rw [exec, AddStatement.expr, called, Value.call, Schema.declare]
  cases (s.makeProperty t).1.add c (s.makeProperty t).2 <;> rfl

theorem exec_operation (distinct : f.Distinct) {o : OperationStatement} {c : ClassId}
    (hc : f.class? o.owner = some c) : f.exec s o.expr = .ok (s.addOperation c o.name) := by
  have called := eval_call "AddOperation" (eval_class (s := s) distinct hc)
    (evalAll_text o.name evalAll_nil)
  rw [exec, OperationStatement.expr, called]
  rfl

theorem eval_lookup (distinct : f.Distinct) {l : PropertyLookup} {p? : Option PropertyId}
    (h : f.find s l = .ok p?) : f.eval l.expr s = .ok (.property p?, s) := by
  unfold find at h
  split at h
  · cases h
  · rename_i c hc
    cases h
    exact eval_call _ (eval_class distinct hc) (evalAll_text l.name evalAll_nil)

theorem evalAll_lookups (distinct : f.Distinct) {ls : List PropertyLookup} {ps : List PropertyId}
    (h : List.Forall₂ (fun l p => f.find s l = .ok (some p)) ls ps) :
    f.evalAll (ls.map (·.expr)) s = .ok (ps.map fun p => .property (some p), s) := by
  induction h with
  | nil => exact evalAll_nil
  | cons hl _ ih => exact evalAll_cons (eval_lookup distinct hl) ih

theorem mapM_property? (ps : List PropertyId) :
    (ps.map fun p => Value.property (some p)).mapM Value.property? = some (ps.map some) := by
  induction ps with
  | nil => rfl
  | cons p ps ih =>
    rw [List.map_cons, List.mapM_cons, ih]
    rfl

end Evaluation

/-! ## Properties -/

/-- The class that a variable makes. -/
def bareClass (f : File) (d : ClassDecl) : Schema.Class where
  name := d.name
  generals := d.generals.filterMap f.class?

theorem foldl_makeClass (f : File) (s : Schema) (ds : List ClassDecl) :
    ds.foldl (fun s d => (s.makeClass d.name (d.generals.filterMap f.class?)).1) s =
      { s with classes := s.classes ++ ds.map f.bareClass } := by
  induction ds generalizing s with
  | nil => simp
  | cons d ds ih =>
    rw [List.foldl_cons, ih]
    simp [Schema.makeClass, bareClass]

theorem bare_eq_holding (f : File) : f.bare = holding (f.classes.map f.bareClass) [] := by
  rw [bare, foldl_makeClass]
  apply congrArg (Schema.mk · [])
  apply List.ext_getElem?
  intro i
  simp only [List.nil_append, List.getElem?_mapIdx, List.getElem?_map, Option.map_map]
  rfl

section Runs

variable {f : File} (distinct : f.Distinct)
include distinct

/-- Statements with values for all variables run as the declarations that they stand for. -/
theorem run_properties {as : List AddStatement} {ds : List Declaration}
    (h : List.Forall₂ (fun a d => f.declaration? a = some d) as ds) (s : Schema) :
    f.run (as.map (·.expr f.qualifier)) s = (ds.foldlM Schema.declare s).mapError .refused := by
  induction h generalizing s with
  | nil => rfl
  | @cons a d as ds ha _ ih =>
    rw [run, List.map_cons, List.foldlM_cons, List.foldlM_cons, exec_add distinct ha]
    cases hd : s.declare d with
    | error e => simp [bind, Except.bind, Except.mapError]
    | ok t => simpa [run, bind, Except.bind, Except.mapError] using ih t

theorem runProperties_eq {ds : List Declaration}
    (h : List.Forall₂ (fun a d => f.declaration? a = some d) f.properties ds)
    (nodup : (ds.map (·.key)).Nodup) :
    f.runProperties = .ok (holding (f.classes.map f.bareClass) ds) := by
  rw [runProperties, run_properties distinct h, bare_eq_holding,
    Schema.foldlM_declare_holding (by simpa)]
  rfl

/-! ## Operations -/

theorem run_operations {os : List OperationStatement} {vs : List (ClassId × String)}
    (h : List.Forall₂ (fun o v => f.class? o.owner = some v.1 ∧ o.name = v.2) os vs)
    (s : Schema) (ws : List (ClassId × String)) :
    f.run (os.map (·.expr)) (s.operating ws) = .ok (s.operating (ws ++ vs)) := by
  induction h generalizing ws with
  | nil =>
    rw [List.append_nil]
    rfl
  | @cons o v os vs ho _ ih =>
    rw [run, List.map_cons, List.foldlM_cons, exec_operation distinct ho.1, ho.2, List.append_cons,
      ← ih, ← Schema.addOperation_operating]
    rfl

theorem runOperations_eq {vs : List (ClassId × String)}
    (h : List.Forall₂ (fun o v => f.class? o.owner = some v.1 ∧ o.name = v.2) f.operations vs)
    (s : Schema) : f.runOperations s = .ok (s.operating vs) := by
  have run := run_operations distinct h s []
  rw [Schema.operating_nil] at run
  exact run

end Runs

/-! ## Members of derived unions -/

/-- A statement whose variables have values, which gives the derived union with a number the members
with numbers. -/
structure Links (f : File) (s : Schema) (x : SubsetsStatement)
    (l : PropertyId × List PropertyId) : Prop where
  union : f.find s x.union = .ok (some l.1)
  members : List.Forall₂ (fun m p => f.find s m = .ok (some p)) x.members l.2
  isUnion : (s.property? l.1).map (·.kind) = some .derivedUnion

theorem find_linked (f : File) (s : Schema) (links : List (PropertyId × List PropertyId)) :
    f.find (s.linked links) = f.find s := by
  funext l
  simp only [find, Schema.lookup?_linked]

section Linked

variable {f : File} (distinct : f.Distinct) {s : Schema}
include distinct

theorem exec_subsets_linked {x : SubsetsStatement} {l : PropertyId × List PropertyId}
    (h : f.Links s x l) (links : List (PropertyId × List PropertyId)) :
    f.exec (s.linked links) (x.expr f.qualifier) = .ok (s.linked (links ++ [l])) := by
  obtain ⟨p, hp, kind⟩ := Option.map_eq_some_iff.1 h.isUnion
  have called := eval_call "Subsets" (eval_library (s := s.linked links))
    (evalAll_cons (eval_lookup distinct (find_linked f s links ▸ h.union))
      (evalAll_lookups distinct (find_linked f s links ▸ h.members)))
  have taken : Library.subsets? "Subsets"
      (.property (some l.1) :: l.2.map fun p => Value.property (some p)) =
        some (some l.1, l.2.map some) := by
    simp only [Library.subsets?, mapM_property?, Option.map_some]
  rw [exec, SubsetsStatement.expr, Expr.library, called, Value.call, Library.call]
  simp only [Library.setting?, Library.construction?, taken, Schema.subset_linked hp kind]
  rfl

theorem run_subsets_linked {xs : List SubsetsStatement}
    {links : List (PropertyId × List PropertyId)} (h : List.Forall₂ (f.Links s) xs links)
    (before : List (PropertyId × List PropertyId)) :
    f.run (xs.map (·.expr f.qualifier)) (s.linked before) = .ok (s.linked (before ++ links)) := by
  induction h generalizing before with
  | nil =>
    rw [List.append_nil]
    rfl
  | cons hx _ ih =>
    rw [List.append_cons, ← ih, run, List.map_cons, List.foldlM_cons,
      exec_subsets_linked distinct hx]
    rfl

theorem runSubsets_eq {links : List (PropertyId × List PropertyId)}
    (h : List.Forall₂ (f.Links s) f.subsets links) : f.runSubsets s = .ok (s.linked links) := by
  have run := run_subsets_linked distinct h []
  rw [Schema.linked_nil] at run
  exact run

end Linked

end File

end ModelCompiler.Source
