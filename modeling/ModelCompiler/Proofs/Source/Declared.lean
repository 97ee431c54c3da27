import Mathlib.Data.List.Find
import ModelCompiler.Proofs.Source.Descriptors
import ModelCompiler.Proofs.Source.Printing
import ModelCompiler.Proofs.Source.Running

/-!
# Running a file declares what is recorded

The statements of a file leave out what the schema library supplies by itself: bounds that a kind of
property has anyhow, and that a derived union is derived.  They refer to classes and enumerations by
variables, which stand for what has been recorded under the name.  Main statement: the statements
that are read back from the text of a file give each recorded class, when they are run, the
properties that its descriptors describe, and its operations.
-/

namespace ModelCompiler

open Schema (ClassId PropertyId EnumerationType Construction Declaration holding)

/-- The class of a name. -/
def Schema.classNamed? (s : Schema) (name : String) : Option ClassId :=
  (s.classes.map (·.name)).findIdx? (· == name)

namespace Source

namespace Recording

/-- The enumeration of a name, if it is recorded. -/
def enumerationType? (r : Recording) (name : String) : Option EnumerationType :=
  (r.enumerations.find? (·.name == name)).map fun e => { name := e.name, literals := e.literals }

/-- The name of the end across from an association, if that can be navigated to. -/
def oppositeName : Option End → String
  | some tail => if tail.navigable then tail.name else ""
  | none => ""

/-- The property that a descriptor describes, where classes are given by name. -/
def described (r : Recording) (class? : String → Option ClassId) (d : Descriptor) :
    Schema.Property :=
  match d with
  | .attribute a =>
    let values? := a.enumeration.bind r.enumerationType?
    { name := a.name
      kind := if values?.isSome then .enumeration else .attribute
      type := (values?.map (·.name)).getD a.type
      enumeration? := values?
      bounds := ⟨a.bounds.lower, a.bounds.upper⟩
      default? := a.default?
      derived := a.source = .derived
      owner? := class? a.className }
  | .association head tail? =>
    { name := head.name
      kind := .association
      class? := class? head.typeName
      bounds := ⟨head.bounds.lower, head.bounds.upper⟩
      composite := head.composite
      opposite := oppositeName tail?
      owner? := class? head.className }
  | .redefinition e =>
    { name := e.name
      kind := .redefinition
      class? := class? e.typeName
      bounds := ⟨e.bounds.lower, e.bounds.upper⟩
      composite := e.composite
      redefines := e.redefines
      owner? := class? e.className }
  | .derivedUnion u =>
    { name := u.toEnd.name
      kind := .derivedUnion
      class? := class? u.toEnd.typeName
      bounds := ⟨u.toEnd.bounds.lower, u.toEnd.bounds.upper⟩
      composite := u.toEnd.composite
      derived := true
      owner? := class? u.toEnd.className }

/-- The call of the library that the expression for a descriptor stands for. -/
def construction (r : Recording) (class? : String → Option ClassId) (s : Scope) (d : Descriptor) :
    Construction :=
  let settings := (d.term s).settings.map Setting.made
  match d with
  | .attribute a => match a.enumeration.bind r.enumerationType? with
    | some e => .enumeration a.name (some e) settings
    | none => .attribute a.name a.type settings
  | .association head _ => .association head.name (class? head.typeName) settings
  | .redefinition e => .redefinition e.name (class? e.typeName) e.redefines settings
  | .derivedUnion u => .derivedUnion u.toEnd.name (class? u.toEnd.typeName) settings

/-- The declaration that the statement for a descriptor stands for. -/
def declaration (r : Recording) (class? : String → Option ClassId) (s : Scope) (d : Descriptor) :
    Declaration where
  owner := (class? d.className).getD 0
  term := r.construction class? s d

theorem name_construction (r : Recording) (class? : String → Option ClassId) (s : Scope)
    (d : Descriptor) : (r.construction class? s d).name = d.name := by
  obtain a | _ | _ | _ := d
  · rw [construction]
    split <;> rfl
  all_goals rfl

end Recording

/-! ## Settings -/

section Settings

/-- A property with the settings that are asked for. -/
def applied (p : Schema.Property) (xs : List Setting) : Schema.Property :=
  (xs.map Setting.made).foldl Schema.Property.apply p

variable (p : Schema.Property)

theorem applied_append (xs ys : List Setting) :
    applied p (xs ++ ys) = applied (applied p xs) ys := by
  rw [applied, List.map_append, List.foldl_append]
  rfl

/-- Bounds that are left out are those that the library supplies. -/
theorem applied_boundsSetting {upper : String} (h : p.bounds = ⟨"0", upper⟩) (m : Multiplicity) :
    applied p (boundsSetting upper m) = { p with bounds := ⟨m.lower, m.upper⟩ } := by
  unfold boundsSetting
  split
  · rename_i supplied
    rw [supplied.1, supplied.2, ← h]
    rfl
  · rfl

theorem applied_default (h : p.default? = none) (v : Option String) :
    applied p (v.toList.map Setting.default) = { p with default? := v } := by
  cases v with
  | none =>
    cases p
    cases h
    rfl
  | some v => rfl

theorem applied_composite (h : p.composite = false) (c : Bool) :
    applied p (if c then [Setting.composite] else []) = { p with composite := c } := by
  cases c with
  | false =>
    cases p
    cases h
    rfl
  | true => rfl

theorem applied_derived (h : p.derived = false) (c : Prop) [Decidable c] :
    applied p (if c then [Setting.derived] else []) = { p with derived := decide c } := by
  by_cases hc : c
  · simp [hc, applied, Setting.made, Schema.Property.apply]
  · cases p
    cases h
    simp [hc, applied]

theorem applied_oppositeSetting (h : p.opposite = "") (tail? : Option End) :
    applied p (oppositeSetting tail?) = { p with opposite := Recording.oppositeName tail? } := by
  have none : applied p [] = { p with opposite := "" } := by
    rw [← h]
    rfl
  cases tail? with
  | none => exact none
  | some tail =>
    by_cases hn : tail.navigable
    · by_cases he : tail.name = ""
      · simpa [oppositeSetting, Recording.oppositeName, hn, he] using none
      · simp [oppositeSetting, Recording.oppositeName, hn, he, applied, Setting.made,
          Schema.Property.apply]
    · simpa [oppositeSetting, Recording.oppositeName, hn] using none

/-- The library supplies the bounds of an end before it applies what is asked for. -/
theorem newEnd_map_made (name : String) (kind : Schema.PropertyKind) (class? : Option ClassId)
    (xs : List Setting) :
    Schema.Property.newEnd name kind class? (xs.map Setting.made) =
      { applied { name, kind, bounds := ⟨"0", "*"⟩ } xs with class? } := rfl

end Settings

/-- Declaring a descriptor makes the property that it describes. -/
theorem Recording.property_declaration (r : Recording) {class? : String → Option ClassId}
    (s : Scope) {d : Descriptor} {c : ClassId} (hc : class? d.className = some c) :
    (r.declaration class? s d).property = r.described class? d := by
  simp only [Declaration.property, declaration, construction, Descriptor.term, hc]
  obtain a | ⟨head, tail?⟩ | e | u := d
  · have owner : class? a.className = some c := hc
    have made (kind : Schema.PropertyKind) :
        Schema.Property.new a.name kind ((attributeTerm s a).settings.map Setting.made) =
          { name := a.name
            kind
            bounds := ⟨a.bounds.lower, a.bounds.upper⟩
            default? := a.default?
            derived := a.source = .derived } := by
      rw [Schema.Property.new, ← applied, attributeTerm, applied_append, applied_append,
        applied_boundsSetting _ rfl, applied_default _ rfl, applied_derived _ rfl]
    cases values : a.enumeration.bind r.enumerationType? with
    | none => simp [Construction.property, made, described, values, owner]
    | some e => simp [Construction.property, made, described, values, owner]
  · have owner : class? head.className = some c := hc
    simp only [Construction.property, newEnd_map_made, associationTerm, endTerm, applied_append]
    rw [applied_boundsSetting _ rfl, applied_composite _ rfl, applied_oppositeSetting _ rfl]
    simp [described, owner]
  · have owner : class? e.className = some c := hc
    simp only [Construction.property, newEnd_map_made, endTerm, applied_append]
    rw [applied_boundsSetting _ rfl, applied_composite _ rfl]
    simp [described, owner]
  · have owner : class? u.toEnd.className = some c := hc
    simp only [Construction.property, newEnd_map_made, endTerm, applied_append]
    rw [applied_boundsSetting _ rfl, applied_composite _ rfl]
    simp [described, owner]

/-! ## Variables -/

theorem findIdx?_eq_some_of_nodup {α : Type} [DecidableEq α] {l : List α} (hl : l.Nodup)
    {k : Nat} {a : α} (hk : l[k]? = some a) : l.findIdx? (· == a) = some k := by
  obtain ⟨hlt, rfl⟩ := List.getElem?_eq_some_iff.1 hk
  refine List.findIdx?_eq_some_iff_getElem.2 ⟨hlt, by simp, ?_⟩
  intro j hj same
  have eq : l[j] = l[k] := by simpa using same
  exact Nat.ne_of_lt hj ((hl.getElem_inj_iff).1 eq)

theorem getElem?_of_classNamed? {s : Schema} {name : String} {c : ClassId}
    (h : s.classNamed? name = some c) : (s.classes.map (·.name))[c]? = some name := by
  obtain ⟨hc, eq, -⟩ := List.findIdx?_eq_some_iff_getElem.1 h
  rw [List.getElem?_eq_getElem hc]
  exact congrArg some (by simpa using eq)

theorem File.names_bare (f : File) : f.bare.classes.map (·.name) = f.scope.classes := by
  rw [bare_eq_holding, Schema.names_holding, List.map_map]
  rfl

namespace Assembled

variable {t : Target} {header : String} {r : Recording} {classes : List ClassDef} {f : File}

/-- The variable for the name of a class stands for the class of that name. -/
theorem exists_class (h : Assembled t header r classes f) {name : String}
    (hn : name ∈ r.classes.map (·.name)) :
    ∃ k < f.classes.length, f.class? (identifierFor name) = some k ∧
      f.bare.classNamed? name = some k := by
  have names : f.scope.classes = classes.map (·.name) := by rw [h.scope_eq]
  have idents : f.classes.map (·.ident) = (classes.map (·.name)).map identifierFor := by
    rw [h.classes_eq, List.map_map, List.map_map]
    rfl
  have distinct : ((classes.map (·.name)).map identifierFor).Nodup := by
    rw [List.map_map]
    exact h.idents_nodup
  obtain ⟨k, hk⟩ := List.mem_iff_getElem?.1 (names ▸ h.mem_classes_scope.2 hn)
  refine ⟨k, ?_, ?_, ?_⟩
  · have hlt := (List.getElem?_eq_some_iff.1 hk).1
    rw [h.classes_eq]
    simpa using hlt
  · have hi : (f.classes.map (·.ident))[k]? = some (identifierFor name) := by
      rw [idents, List.getElem?_map, hk]
      rfl
    have found := findIdx?_eq_some_of_nodup (idents ▸ distinct) hi
    rwa [List.findIdx?_map] at found
  · rw [Schema.classNamed?, f.names_bare, names]
    exact findIdx?_eq_some_of_nodup distinct.of_map hk

theorem enumeration?_eq (h : Assembled t header r classes f) {name : String}
    (hn : name ∈ r.enumerations.map (·.name)) :
    f.enumeration? (identifierFor name) = r.enumerationType? name := by
  obtain ⟨d, hd, rfl⟩ := List.mem_map.1 hn
  have same : ∀ e ∈ r.enumerations,
      (identifierFor e.name == identifierFor d.name) = (e.name == d.name) := by
    intro e he
    rw [Bool.eq_iff_iff, beq_iff_eq, beq_iff_eq]
    constructor
    · intro hid
      rw [List.inj_on_of_nodup_map h.enumeration_idents_nodup he hd hid]
    · intro hn
      rw [hn]
  rw [File.enumeration?, Recording.enumerationType?, h.enumerations_eq, List.find?_map,
    Option.map_map]
  exact congrArg _ (List.find?_congr same)

/-! ## Statements -/

theorem enumeration?_scope (h : Assembled t header r classes f) (name : String) :
    f.scope.enumeration? name =
      if name ∈ r.enumerations.map (·.name) then some (identifierFor name) else none := by
  rw [h.scope_eq]
  simp [Scope.enumeration?]

/-- The identifiers of a file stand for one thing each. -/
theorem distinct (h : Assembled t header r classes f) : f.Distinct := by
  have qualifier : f.qualifier = qualifierOf t.runtime := by
    rw [h.file_eq]
    rfl
  have free := h.unqualified
  have separate := h.identifiers
  rw [List.map_append] at free separate
  rw [List.mem_append, not_or, ← qualifier] at free
  have structural {x : String} {c : ClassId} (hx : f.class? x = some c) :
      x ∈ (classes.map (·.name)).map identifierFor := by
    obtain ⟨hc, same, -⟩ := List.findIdx?_eq_some_iff_getElem.1 hx
    have declared : x ∈ f.classes.map (·.ident) :=
      List.mem_map.2 ⟨f.classes[c], List.getElem_mem hc, beq_iff_eq.1 same⟩
    rw [h.classes_eq, List.map_map] at declared
    rwa [List.map_map]
  have enumeration {x : String} {e : EnumerationType} (hx : f.enumeration? x = some e) :
      x ∈ (r.enumerations.map (·.name)).map identifierFor := by
    obtain ⟨d, hd, -⟩ := Option.map_eq_some_iff.1 hx
    have declared : x ∈ f.enumerations.map (·.ident) :=
      List.mem_map.2 ⟨d, List.mem_of_find?_eq_some hd, by simpa using List.find?_some hd⟩
    rw [h.enumerations_eq, List.map_map] at declared
    rwa [List.map_map]
  constructor
  · rintro x c hx rfl
    exact free.1 (structural hx)
  · rintro x e hx rfl
    exact free.2 (enumeration hx)
  · intro x e hx
    cases hc : f.class? x with
    | none => rfl
    | some c =>
      exact absurd rfl ((List.nodup_append.1 separate).2.2 x (structural hc) x (enumeration hx))

/-- The term for an attribute makes what is described for it. -/
theorem construction?_attribute (h : Assembled t header r classes f) (a : Attribute)
    (class? : String → Option ClassId) :
    f.construction? (attributeTerm f.scope a) =
      some (r.construction class? f.scope (.attribute a)) := by
  rw [File.construction?, Recording.construction]
  simp only [attributeTerm, Descriptor.term]
  rw [attributeShape]
  cases a.enumeration with
  | none => rfl
  | some name =>
    rw [Option.bind_some, Option.bind_some, h.enumeration?_scope]
    by_cases hn : name ∈ r.enumerations.map (·.name)
    · obtain ⟨e, he, hen⟩ := List.mem_map.1 hn
      have found : (r.enumerations.find? (·.name == name)).isSome :=
        List.find?_isSome.2 ⟨e, he, by simpa using hen⟩
      obtain ⟨e, he⟩ := Option.isSome_iff_exists.1 found
      have value : r.enumerationType? name = some { name := e.name, literals := e.literals } := by
        rw [Recording.enumerationType?, he]
        rfl
      rw [if_pos hn, value]
      simp only [h.enumeration?_eq hn, value]
      rfl
    · have absent : r.enumerationType? name = none := by
        rw [Recording.enumerationType?, Option.map_eq_none_iff, List.find?_eq_none]
        intro e he same
        exact hn (List.mem_map.2 ⟨e, he, by simpa using same⟩)
      rw [if_neg hn, absent]

/-- The term for a descriptor makes what is described by it. -/
theorem construction?_term (h : Assembled t header r classes f) {d : Descriptor}
    (hd : d.isAdmitted (r.classes.map (·.name))) :
    f.construction? (d.term f.scope) = some (r.construction f.bare.classNamed? f.scope d) := by
  have typed : ∀ e, d.end? = some e → ∃ k, f.class? (identifierFor e.typeName) = some k ∧
      f.bare.classNamed? e.typeName = some k := by
    intro e he
    obtain ⟨k, -, hk⟩ := h.exists_class ((Descriptor.isAdmitted_iff.1 hd).2 e he)
    exact ⟨k, hk⟩
  obtain a | ⟨head, tail?⟩ | e | u := d
  · exact h.construction?_attribute a _
  · obtain ⟨k, hk, hk'⟩ := typed head rfl
    simp [File.construction?, Recording.construction, Descriptor.term, associationTerm, endTerm, hk,
      hk']
  · obtain ⟨k, hk, hk'⟩ := typed e rfl
    simp [File.construction?, Recording.construction, Descriptor.term, endTerm, hk, hk']
  · obtain ⟨k, hk, hk'⟩ := typed u.toEnd rfl
    simp [File.construction?, Recording.construction, Descriptor.term, endTerm, hk, hk']

/-- The statement for a descriptor stands for its declaration. -/
theorem declaration?_statement (h : Assembled t header r classes f) {d : Descriptor}
    (hd : d.isAdmitted (r.classes.map (·.name))) :
    f.declaration? (d.statement f.scope) =
      some (r.declaration f.bare.classNamed? f.scope d) := by
  obtain ⟨k, -, hk, hk'⟩ := h.exists_class (Descriptor.isAdmitted_iff.1 hd).1
  simp [File.declaration?, Descriptor.statement, hk, h.construction?_term hd,
    Recording.declaration, hk']

/-! ## The run -/

/-- A recorded class is told by its number. -/
theorem classNamed?_getD_eq_iff (h : Assembled t header r classes f) {a b : String}
    (ha : a ∈ r.classes.map (·.name)) {k : ClassId} (hb : f.bare.classNamed? b = some k) :
    (f.bare.classNamed? a).getD 0 = k ↔ a = b := by
  obtain ⟨j, -, -, hj⟩ := h.exists_class ha
  constructor
  · intro hk
    rw [hj, Option.getD_some] at hk
    have same := getElem?_of_classNamed? hj
    rw [hk, getElem?_of_classNamed? hb] at same
    exact (Option.some.inj same).symm
  · rintro rfl
    rw [hb]
    rfl

end Assembled

/-- The declarations that a file makes, in order. -/
def File.declarations (f : File) (r : Recording) : List Declaration :=
  r.rendered.map fun x => r.declaration f.bare.classNamed? f.scope x.1

/-- The schema after the properties have been declared. -/
def File.filled (f : File) (r : Recording) : Schema :=
  holding (f.classes.map f.bareClass) (f.declarations r)

theorem File.classNamed?_filled (f : File) (r : Recording) :
    (f.filled r).classNamed? = f.bare.classNamed? := by
  funext name
  rw [Schema.classNamed?, Schema.classNamed?, filled, bare_eq_holding, Schema.names_holding,
    Schema.names_holding]

namespace Assembled

variable {t : Target} {header : String} {r : Recording} {classes : List ClassDef} {f : File}

theorem keys_nodup (h : Assembled t header r classes f) :
    ((f.declarations r).map (·.key)).Nodup := by
  have distinct := r.names_nodup
  rw [Recording.names, List.Nodup, List.pairwise_map] at distinct
  rw [File.declarations, List.map_map, List.Nodup, List.pairwise_map]
  refine distinct.imp_of_mem ?_
  intro x y hx hy hq same
  obtain ⟨owners, names⟩ := Prod.ext_iff.1 same
  obtain ⟨k, -, -, hk⟩ := h.exists_class (Recording.className_mem_of_mem_rendered hy)
  have owners : (f.bare.classNamed? x.1.className).getD 0 =
      (f.bare.classNamed? y.1.className).getD 0 := owners
  rw [hk, Option.getD_some,
    h.classNamed?_getD_eq_iff (Recording.className_mem_of_mem_rendered hx) hk] at owners
  have names : x.1.name = y.1.name :=
    (Recording.name_construction _ _ _ x.1).symm.trans
      (names.trans (Recording.name_construction _ _ _ y.1))
  exact hq (by rw [Descriptor.qualified, Descriptor.qualified, owners, names])

/-- No declaration is refused. -/
theorem runProperties_eq (h : Assembled t header r classes f) :
    f.runProperties = .ok (f.filled r) := by
  refine File.runProperties_eq h.distinct ?_ h.keys_nodup
  rw [h.properties_eq, File.declarations, List.forall₂_map_left_iff, List.forall₂_map_right_iff,
    List.forall₂_same]
  intro x hx
  exact h.declaration?_statement (Recording.isAdmitted_of_mem_rendered hx)

theorem properties_filled (h : Assembled t header r classes f) :
    (f.filled r).properties = r.rendered.map fun x => r.described f.bare.classNamed? x.1 := by
  rw [File.filled, holding, File.declarations, List.map_map]
  apply List.map_congr_left
  intro x hx
  obtain ⟨k, -, -, hk⟩ := h.exists_class (Recording.className_mem_of_mem_rendered hx)
  exact r.property_declaration f.scope hk

/-- A class has the properties that are described for it. -/
theorem map_property?_declared_filled (h : Assembled t header r classes f) {name : String}
    {k : ClassId} (hlt : k < f.classes.length) (hk : f.bare.classNamed? name = some k) :
    ((f.filled r).declared k).map (f.filled r).property? =
      ((r.rendered.map (·.1)).filter (·.className = name)).map fun d =>
        some (r.described f.bare.classNamed? d) := by
  rw [File.filled, Schema.map_property?_declared_holding (by simpa using hlt), File.declarations,
    List.filter_map, List.filter_map, List.map_map, List.map_map]
  have kept : r.rendered.filter ((·.owner == k) ∘
        fun x => r.declaration f.bare.classNamed? f.scope x.1) =
      r.rendered.filter ((fun d : Descriptor => decide (d.className = name)) ∘ (·.1)) := by
    apply List.filter_congr
    intro x hx
    rw [Bool.eq_iff_iff, Function.comp_apply, Function.comp_apply, beq_iff_eq, decide_eq_true_iff]
    exact h.classNamed?_getD_eq_iff (Recording.className_mem_of_mem_rendered hx) hk
  rw [kept]
  apply List.map_congr_left
  intro x hx
  obtain ⟨j, -, -, hj⟩ :=
    h.exists_class (Recording.className_mem_of_mem_rendered (List.mem_filter.1 hx).1)
  exact congrArg some (r.property_declaration f.scope hj)

/-! ## Operations -/

theorem operationStatement?_scope (h : Assembled t header r classes f) (o : ClassOperation) :
    operationStatement? f.scope o =
      if o.className ∈ r.classes.map (·.name) then
        some { owner := identifierFor o.className, name := o.name }
      else none := by
  rw [operationStatement?, operationOf, h.class?_scope]
  by_cases hc : o.className ∈ r.classes.map (·.name)
  · rw [if_pos hc, if_pos hc]
    rfl
  · rw [if_neg hc, if_neg hc]
    rfl

/-- The statements for operations, and the class and the name that each of them stands for. -/
theorem forall₂_operations (h : Assembled t header r classes f) (os : List ClassOperation) :
    List.Forall₂ (fun o v => f.class? o.owner = some v.1 ∧ o.name = v.2)
      (os.filterMap (operationStatement? f.scope))
      ((os.filter (·.className ∈ r.classes.map (·.name))).map fun o =>
        ((f.bare.classNamed? o.className).getD 0, o.name)) := by
  induction os with
  | nil => exact .nil
  | cons o os ih =>
    have statement := h.operationStatement?_scope o
    by_cases ho : o.className ∈ r.classes.map (·.name)
    · obtain ⟨k, -, hk, hk'⟩ := h.exists_class ho
      rw [if_pos ho] at statement
      rw [List.filterMap_cons_some statement, List.filter_cons_of_pos (by simpa using ho),
        List.map_cons, hk']
      exact .cons ⟨hk, rfl⟩ ih
    · rw [if_neg ho] at statement
      rw [List.filterMap_cons_none statement, List.filter_cons_of_neg (by simpa using ho)]
      exact ih

/-- The operations that are added to a class. -/
theorem operations_of_class (h : Assembled t header r classes f) {name : String}
    (hn : name ∈ r.classes.map (·.name)) {k : ClassId} (hk : f.bare.classNamed? name = some k)
    (os : List ClassOperation) :
    (((os.filter (·.className ∈ r.classes.map (·.name))).map fun o =>
        ((f.bare.classNamed? o.className).getD 0, o.name)).filter (·.1 == k)).map (·.2) =
      (os.filter (·.className = name)).map (·.name) := by
  rw [List.filter_map, List.filter_filter, List.map_map]
  have kept : os.filter (fun o => decide (o.className = name)) = os.filter fun o =>
      ((fun v : ClassId × String => v.1 == k) ∘ fun o : ClassOperation =>
        ((f.bare.classNamed? o.className).getD 0, o.name)) o &&
        decide (o.className ∈ r.classes.map (·.name)) := by
    apply List.filter_congr
    intro o _
    rw [Bool.eq_iff_iff, Bool.and_eq_true, Function.comp_apply, beq_iff_eq, decide_eq_true_iff,
      decide_eq_true_iff]
    constructor
    · rintro rfl
      exact ⟨(h.classNamed?_getD_eq_iff hn hk).2 rfl, hn⟩
    · rintro ⟨hk', ho⟩
      exact (h.classNamed?_getD_eq_iff ho hk).1 hk'
  rw [kept]
  rfl

end Assembled

/-! ## Reading the text -/

theorem isIdentifier_of_class? {s : Scope} {name x : String} (h : s.class? name = some x) :
    isIdentifier x := by
  rw [Scope.class?, Option.ite_none_right_eq_some] at h
  cases h.2
  exact isIdentifier_identifierFor name

theorem isIdentifier_of_enumeration? {s : Scope} {name x : String}
    (h : s.enumeration? name = some x) : isIdentifier x := by
  rw [Scope.enumeration?, Option.ite_none_right_eq_some] at h
  cases h.2
  exact isIdentifier_identifierFor name

theorem isIdentifier_of_mem_statement {s : Scope} {d : Descriptor} :
    ∀ x ∈ (d.statement s).references, isIdentifier x := by
  have type (e : End) : ∀ x ∈ [identifierFor e.typeName], isIdentifier x := by
    simpa using isIdentifier_identifierFor e.typeName
  refine List.forall_mem_cons.2 ⟨isIdentifier_identifierFor d.className, ?_⟩
  obtain a | ⟨head, tail?⟩ | e | u := d
  · intro x hx
    have shape : x ∈ (attributeShape s a).references := hx
    rw [attributeShape] at shape
    cases values : a.enumeration.bind s.enumeration? with
    | none =>
      rw [values] at shape
      cases shape
    | some e =>
      rw [values] at shape
      obtain ⟨name, -, declared⟩ := Option.bind_eq_some_iff.1 values
      rw [List.mem_singleton.1 shape]
      exact isIdentifier_of_enumeration? declared
  · exact type head
  · exact type e
  · exact type u.toEnd

theorem isIdentifier_owner_lookupOf (s : Scope) (e : End) :
    isIdentifier (lookupOf s e).owner ∨ (lookupOf s e).owner = "" := by
  rw [lookupOf]
  cases owner : s.class? e.className with
  | none => exact .inr rfl
  | some x => exact .inl (isIdentifier_of_class? owner)

theorem isIdentifier_of_mem_subsetsOf {s : Scope} {names : List String} {u : DerivedUnion}
    {x : SubsetsStatement} (hx : x ∈ subsetsOf s names u) :
    ∀ y ∈ x.references, isIdentifier y ∨ y = "" := by
  rw [subsetsOf] at hx
  split at hx
  · rw [List.mem_singleton.1 hx]
    refine List.forall_mem_cons.2 ⟨isIdentifier_owner_lookupOf s u.toEnd, ?_⟩
    simp only [List.map_map, List.forall_mem_map]
    exact fun e _ => isIdentifier_owner_lookupOf s e
  · cases hx

theorem isIdentifier_of_operationStatement? {s : Scope} {o : ClassOperation}
    {x : OperationStatement} (hx : operationStatement? s o = some x) : isIdentifier x.owner := by
  rw [operationStatement?, operationOf] at hx
  cases owner : s.class? o.className with
  | none =>
    rw [owner] at hx
    cases hx
  | some y =>
    rw [owner] at hx
    cases hx
    exact isIdentifier_of_class? owner

/-- The statements of an assembled file are read back from its text. -/
theorem Assembled.additions?_initLines {t : Target} {header : String} {r : Recording}
    {classes : List ClassDef} {f : File} (h : Assembled t header r classes f)
    (hq : isIdentifier f.qualifier) :
    additions? (unlines (f.initLines f.qualifier)) = some f.additions := by
  refine Source.additions?_initLines hq ?_ ?_ ?_
  · intro a ha
    rw [h.properties_eq] at ha
    obtain ⟨x, -, rfl⟩ := List.mem_map.1 ha
    exact isIdentifier_of_mem_statement
  · intro x hx
    rw [h.subsets_eq] at hx
    obtain ⟨u, -, hx⟩ := List.mem_flatMap.1 hx
    exact isIdentifier_of_mem_subsetsOf hx
  · intro x hx
    rw [h.operations_eq] at hx
    obtain ⟨o, -, hx⟩ := List.mem_filterMap.1 hx
    exact isIdentifier_of_operationStatement? hx

theorem File.run_additions (f : File) :
    f.run f.additions f.bare = (f.runProperties >>= f.runOperations) := List.foldlM_append

/-- The statements that declare properties and add operations are read back from the text of a
file, if the schema library is called by an identifier. Running them stops at none of them and gives
every recorded class what is recorded for it: the properties that its declared descriptors describe,
attributes first, then associations, redefinitions and derived unions, and its operations. -/
theorem run_declares_recorded {t : Target} {header : String} {r : Recording} {f : File}
    (hf : assemble t header r = .ok f) :
    (isIdentifier f.qualifier →
      additions? (unlines (f.initLines f.qualifier)) = some f.additions) ∧
    ∃ s, f.run f.additions f.bare = .ok s ∧
      ∀ c ∈ r.classes, ∃ k, f.class? (identifierFor c.name) = some k ∧
        s.classNamed? c.name = some k ∧
        (s.declared k).map s.property? =
          ((r.rendered.map (·.1)).filter (·.className = c.name)).map
            (fun d => some (r.described s.classNamed? d)) ∧
        s.operations k = (r.operations.filter (·.className = c.name)).map (·.name) := by
  obtain ⟨classes, h⟩ := assembled_of_assemble hf
  let os := (r.operations.filter (·.className ∈ r.classes.map (·.name))).map fun o =>
    ((f.bare.classNamed? o.className).getD 0, o.name)
  have named : ((f.filled r).operating os).classNamed? = f.bare.classNamed? := by
    rw [← f.classNamed?_filled r]
    funext name
    rw [Schema.classNamed?, Schema.names_operating]
    rfl
  refine ⟨h.additions?_initLines, (f.filled r).operating os, ?_, ?_⟩
  · rw [f.run_additions, h.runProperties_eq]
    refine File.runOperations_eq h.distinct ?_ _
    rw [h.operations_eq]
    exact h.forall₂_operations r.operations
  · intro c hc
    have hn : c.name ∈ r.classes.map (·.name) := List.mem_map_of_mem hc
    obtain ⟨k, hlt, hk, hk'⟩ := h.exists_class hn
    refine ⟨k, hk, named ▸ hk', ?_, ?_⟩
    · rw [named, Schema.declared_operating]
      exact h.map_property?_declared_filled hlt hk'
    · have bare : (f.filled r).operations k = [] := by
        simp [Schema.operations, Schema.class?, File.filled, holding, File.bareClass, hlt]
      rw [Schema.operations_operating (by simpa [File.filled, holding] using hlt), bare,
        List.nil_append]
      exact h.operations_of_class hn hk' r.operations

/-- Vehicles with a color from an enumeration and with wheels; a second color is left out. -/
def garage : Recording where
  classes := [⟨⟨"vehicle", "Vehicle"⟩, []⟩, ⟨⟨"wheel", "Wheel"⟩, []⟩]
  enumerations := [{ id := "color", name := "Color", literals := ["red"] }]
  attributes :=
    [{ className := "Vehicle", name := "color", type := "Color", enumeration := some "Color",
       bounds := ⟨"0", "1"⟩ }]
  associations :=
    [({ className := "Vehicle", name := "wheels", typeName := "Wheel", bounds := ⟨"0", "4"⟩,
        composite := true }, some { name := "vehicle", navigable := true }),
     ({ className := "Vehicle", name := "color", typeName := "Wheel" }, none)]
  operations := [{ className := "Vehicle", name := "start" }]

theorem run_declares_recorded_garage :
    ∃ f s k, assemble {} "" garage = .ok f ∧
      f.initLines f.qualifier =
        ["func init() \x7b",
         "\tVehicle.Add(properties.NewEnumerationAttribute(\"color\", Color))",
         "\tVehicle.Add(properties.NewAssociation(\"wheels\", Wheel, " ++
           "properties.Bounds(\"0\", \"4\"), properties.Composite(), " ++
           "properties.Opposite(\"vehicle\")))",
         "", "\tVehicle.AddOperation(\"start\")", "\x7d"] ∧
      additions? (unlines (f.initLines f.qualifier)) = some f.additions ∧
      f.run f.additions f.bare = .ok s ∧
      s.classNamed? "Vehicle" = some k ∧
      (s.declared k).map s.property? =
        [some
          { name := "color"
            kind := .enumeration
            type := "Color"
            enumeration? := some { name := "Color", literals := ["red"] }
            bounds := ⟨"0", "1"⟩
            owner? := s.classNamed? "Vehicle" },
         some
          { name := "wheels"
            kind := .association
            class? := s.classNamed? "Wheel"
            bounds := ⟨"0", "4"⟩
            composite := true
            opposite := "vehicle"
            owner? := s.classNamed? "Vehicle" }] ∧
      s.operations k = ["start"] := by
  have ordered : classOrder garage.classes = .ok [0, 1] := by decide +kernel
  have hf := assemble_of_takeAll {} "" (by decide +kernel) ordered rfl rfl
  obtain ⟨read, s, hs, all⟩ := run_declares_recorded hf
  obtain ⟨k, -, hk, properties, operations⟩ := all ⟨⟨"vehicle", "Vehicle"⟩, []⟩ (by simp [garage])
  refine ⟨_, s, k, hf, by decide +kernel, read (by decide +kernel), hs, hk, ?_, operations⟩
  have declared : (garage.rendered.map (·.1)).filter (·.className = "Vehicle") =
      garage.attributes.map .attribute ++
        (garage.associations.take 1).map fun a => .association a.1 a.2 := by decide +kernel
  rw [properties, declared]
  rfl

end Source

end ModelCompiler
