import ModelCompiler.Proofs.Plan.Retention
import ModelCompiler.Proofs.Source.Identifiers
import ModelCompiler.Proofs.Source.Unions

/-!
# What a file refers to

Statements and declarations refer to the variables of classes and enumerations by their identifiers.
One identifier can be declared, but not referred to: the blank one, an underscore.  It is the
identifier for every name that is a single character which is no letter and no digit.  Main
statement: a file refers to it if and only if something with such a name is referred to, so a file
may be assembled that nobody can use.
-/

namespace ModelCompiler

namespace Source

/-! ## Blank identifiers -/

/-- A single character that is no letter and no digit. -/
def IsBlank (name : String) : Prop :=
  ∃ c, name.toList = [c] ∧ Text.isLetter c = false ∧ Text.isDigit c = false

/-- A character that stands for itself or for an underscore is one if it is no letter and no
digit. -/
theorem plainChar_eq_underscore_iff (c : Char) : (if isIdentChar c then c else '_') = '_' ↔
    Text.isLetter c = false ∧ Text.isDigit c = false := by
  split
  · rename_i kept
    constructor
    · rintro rfl
      decide +kernel
    · rintro ⟨letter, digit⟩
      simpa [isIdentChar, letter, digit] using kept
  · rename_i foreign
    simp only [isIdentChar, Bool.or_eq_true, not_or, Bool.not_eq_true] at foreign
    exact iff_of_true rfl ⟨foreign.1.2, foreign.2⟩

theorem plainName_eq_underscore_iff (name : String) : plainName name = "_" ↔ IsBlank name := by
  have chars : "_".toList = ['_'] := rfl
  rw [← String.toList_inj, plainName, String.toList_ofList, chars, List.map_eq_singleton_iff]
  simp only [plainChar_eq_underscore_iff, IsBlank]

/-- Only a name without characters and a single character that an identifier cannot hold have the
blank identifier. -/
theorem identifierFor_eq_underscore_iff (name : String) :
    identifierFor name = "_" ↔ name = "" ∨ IsBlank name := by
  have unnamed : plainName name = "" ↔ name = "" := by
    rw [← String.toList_inj, ← String.toList_inj, plainName, String.toList_ofList]
    exact List.map_eq_nil_iff
  rw [← plainName_eq_underscore_iff]
  rcases identifierFor_cases name with ⟨valid, same⟩ | ⟨invalid, same⟩
  · rw [same]
    constructor
    · exact .inr
    · rintro (empty | blank)
      · rw [unnamed.2 empty] at valid
        cases valid
      · exact blank
  · rw [same]
    constructor
    · intro h
      refine .inl (unnamed.1 ?_)
      simpa using h
    · rintro (empty | blank)
      · rw [unnamed.2 empty]
        rfl
      · rw [blank] at invalid
        cases invalid

/-! ## References -/

/-- The variables to which a file refers. -/
def File.references (f : File) : List String :=
  f.classes.flatMap (·.generals) ++ f.properties.flatMap AddStatement.references ++
    f.subsets.flatMap SubsetsStatement.references ++ f.operations.map (·.owner)

/-- What a recording refers to when a file is made of it: supertypes, owners and types of the
properties that are declared, owners of unions and members in statements about them, and owners of
operations. -/
inductive Recording.Refers (r : Recording) : Named → Prop
  | general {c : ClassDef} {d : ClassRef} (hc : c ∈ r.classes) (hd : d ∈ c.generals) :
    r.Refers (.structural d.name)
  | owner {x : Descriptor × Nat} (hx : x ∈ r.rendered) : r.Refers (.structural x.1.className)
  | type {x : Descriptor × Nat} {e : End} (hx : x ∈ r.rendered) (he : x.1.end? = some e) :
    r.Refers (.structural e.typeName)
  | values {a : Attribute} {i : Nat} {n : String} (hx : (.attribute a, i) ∈ r.rendered)
    (hn : a.enumeration = some n) : r.Refers (.enumeration n)
  | linked {u : DerivedUnion} {e : End} (hu : u ∈ r.unions) (declared : u.toEnd.qualified ∈ r.names)
    (filled : ∃ m ∈ u.members, m.qualified ∈ r.names)
    (he : e = u.toEnd ∨ e ∈ u.members ∧ e.qualified ∈ r.names) : r.Refers (.structural e.className)
  | operation {o : ClassOperation} (ho : o ∈ r.operations) : r.Refers (.structural o.className)

namespace Assembled

variable {t : Target} {header : String} {r : Recording} {classes : List ClassDef} {f : File}
  {x : String}

theorem mem_generals_iff (h : Assembled t header r classes f) :
    x ∈ f.classes.flatMap (·.generals) ↔ ∃ c ∈ r.classes, ∃ d ∈ c.generals,
      d.name ∈ r.classes.map (·.name) ∧ identifierFor d.name = x := by
  simp only [h.classes_eq, List.flatMap_map, List.mem_flatMap, classDecl, List.mem_filterMap,
    h.class?_scope, Option.ite_none_right_eq_some, Option.some.injEq, h.perm.mem_iff]

/-- An attribute refers to its enumeration if that is declared. -/
theorem mem_references_attributeShape (h : Assembled t header r classes f) {a : Attribute} :
    x ∈ (attributeShape f.scope a).references ↔ ∃ n, a.enumeration = some n ∧
      n ∈ r.enumerations.map (·.name) ∧ identifierFor n = x := by
  rw [attributeShape]
  cases a.enumeration with
  | none =>
    refine iff_of_false List.not_mem_nil ?_
    rintro ⟨n, given, -⟩
    cases given
  | some n =>
    rw [Option.bind_some, h.enumeration?_scope]
    by_cases known : n ∈ r.enumerations.map (·.name)
    · rw [if_pos known]
      refine List.mem_singleton.trans ⟨?_, ?_⟩
      · rintro rfl
        exact ⟨n, rfl, known, rfl⟩
      · rintro ⟨_, ⟨⟩, -, rfl⟩
        rfl
    · rw [if_neg known]
      refine iff_of_false List.not_mem_nil ?_
      rintro ⟨_, ⟨⟩, known', -⟩
      exact known known'

/-- A statement for a property refers to the owner and to what types the property. -/
theorem mem_references_statement (h : Assembled t header r classes f) {d : Descriptor} :
    x ∈ (d.statement f.scope).references ↔
      identifierFor d.className = x ∨ (∃ e, d.end? = some e ∧ identifierFor e.typeName = x) ∨
        ∃ a n, d = .attribute a ∧ a.enumeration = some n ∧
          n ∈ r.enumerations.map (·.name) ∧ identifierFor n = x := by
  have ends {e : End} : x ∈ [identifierFor e.typeName] ↔ identifierFor e.typeName = x := by
    rw [List.mem_singleton, eq_comm]
  refine List.mem_cons.trans (or_congr eq_comm ?_)
  obtain a | ⟨e, tail?⟩ | e | u := d
  · exact h.mem_references_attributeShape.trans (by simp [Descriptor.end?])
  · exact ends.trans (by simp [Descriptor.end?])
  · exact ends.trans (by simp [Descriptor.end?])
  · exact ends.trans (by simp [Descriptor.end?])

/-- The owner in a look-up, unless it is missing. -/
theorem owner_lookupOf_eq_iff (h : Assembled t header r classes f) {e : End} (hx : x ≠ "") :
    (lookupOf f.scope e).owner = x ↔
      e.className ∈ r.classes.map (·.name) ∧ identifierFor e.className = x := by
  rw [lookupOf, h.class?_scope]
  split
  · rename_i known
    simp [known]
  · rename_i unknown
    simp [unknown, hx.symm]

theorem mem_references_subsets (h : Assembled t header r classes f) (hx : x ≠ "") :
    x ∈ f.subsets.flatMap SubsetsStatement.references ↔
      ∃ u ∈ r.unions, u.toEnd.qualified ∈ r.names ∧ (∃ m ∈ u.members, m.qualified ∈ r.names) ∧
        ∃ e, (e = u.toEnd ∨ e ∈ u.members ∧ e.qualified ∈ r.names) ∧
          e.className ∈ r.classes.map (·.name) ∧ identifierFor e.className = x := by
  have owners (u : DerivedUnion) : x ∈ SubsetsStatement.references
      { union := lookupOf f.scope u.toEnd
        members := (u.members.filter (·.qualified ∈ r.names)).map (lookupOf f.scope) } ↔
      ∃ e, (e = u.toEnd ∨ e ∈ u.members ∧ e.qualified ∈ r.names) ∧
        (lookupOf f.scope e).owner = x := by
    simp [SubsetsStatement.references, or_and_right, exists_or, eq_comm, and_assoc]
  rw [h.subsets_eq, List.flatMap_assoc]
  simp only [List.mem_flatMap, mem_subsetsOf]
  constructor
  · rintro ⟨u, hu, _, ⟨declared, filled, rfl⟩, hx'⟩
    obtain ⟨e, he, owner⟩ := (owners u).1 hx'
    exact ⟨u, hu, declared, filled, e, he, (h.owner_lookupOf_eq_iff hx).1 owner⟩
  · rintro ⟨u, hu, declared, filled, e, he, owner⟩
    exact ⟨u, hu, _, ⟨declared, filled, rfl⟩,
      (owners u).2 ⟨e, he, (h.owner_lookupOf_eq_iff hx).2 owner⟩⟩

theorem mem_references_operations (h : Assembled t header r classes f) :
    x ∈ f.operations.map (·.owner) ↔ ∃ o ∈ r.operations,
      o.className ∈ r.classes.map (·.name) ∧ identifierFor o.className = x := by
  simp only [h.operations_eq, List.map_filterMap, List.mem_filterMap, h.operationStatement?_scope]
  refine exists_congr fun o => and_congr_right fun _ => ?_
  split
  · rename_i known
    simp [known]
  · rename_i unknown
    simp [unknown]

/-- A file refers to what the recording refers to and declares, and to nothing else. -/
theorem mem_references_iff (h : Assembled t header r classes f) (hx : x ≠ "") :
    x ∈ f.references ↔
      ∃ n ∈ declaredThings r.classes r.enumerations, r.Refers n ∧ n.ident t = x := by
  simp only [File.references, List.mem_append, h.mem_generals_iff, h.mem_references_subsets hx,
    h.mem_references_operations, h.properties_eq, List.flatMap_map, List.mem_flatMap,
    h.mem_references_statement]
  have structural {name : String} (refers : r.Refers (.structural name))
      (known : name ∈ r.classes.map (·.name)) (same : identifierFor name = x) :
      ∃ n ∈ declaredThings r.classes r.enumerations, r.Refers n ∧ n.ident t = x :=
    ⟨_, structural_mem_declaredThings.2 known, refers, same⟩
  constructor
  · rintro (((general | property) | linked) | operation)
    · obtain ⟨c, hc, d, hd, known, same⟩ := general
      exact structural (.general hc hd) known same
    · rcases property with ⟨⟨d, i⟩, hy, same | ⟨e, he, same⟩ | ⟨a, n, rfl, hn, known, same⟩⟩
      · exact structural (.owner hy) (r.className_mem_of_mem_rendered hy) same
      · exact structural (.type hy he) (r.typeName_mem_of_mem_rendered hy he) same
      · exact ⟨_, enumeration_mem_declaredThings.2 known, .values hy hn, same⟩
    · obtain ⟨u, hu, declared, filled, e, he, known, same⟩ := linked
      exact structural (.linked hu declared filled he) known same
    · obtain ⟨o, ho, known, same⟩ := operation
      exact structural (.operation ho) known same
  · rintro ⟨n, hn, refers, same⟩
    cases refers with
    | general hc hd =>
      exact .inl (.inl (.inl ⟨_, hc, _, hd, structural_mem_declaredThings.1 hn, same⟩))
    | owner hy => exact .inl (.inl (.inr ⟨_, hy, .inl same⟩))
    | type hy he => exact .inl (.inl (.inr ⟨_, hy, .inr (.inl ⟨_, he, same⟩)⟩))
    | values hy ha =>
      exact .inl (.inl (.inr
        ⟨_, hy, .inr (.inr ⟨_, _, rfl, ha, enumeration_mem_declaredThings.1 hn, same⟩)⟩))
    | linked hu declared filled he =>
      exact .inl (.inr
        ⟨_, hu, declared, filled, _, he, structural_mem_declaredThings.1 hn, same⟩)
    | operation ho => exact .inr ⟨_, ho, structural_mem_declaredThings.1 hn, same⟩

end Assembled

end Source

/-! ## Plans -/

theorem Entity.name_ne_of_enumeration? {cv : Conventions} {g : Graph} {e : Element} {x : Entity}
    {d : Enumeration} (h : Entity.ofElement? cv g e = some x) (hd : x.enumeration? = some d) :
    d.name ≠ "" := by
  unfold ofElement? at h
  split at h
  · split at h
    · cases h
    · rename_i named
      split at h <;> cases h <;> cases hd
      exact named
  all_goals cases h <;> cases hd

section Resolved

variable {g : Graph} {policy : Policy} {cv : Conventions}

theorem name_ne_of_mem_classes (h : (resolve g policy cv).fault? = none) {c : Class}
    (hc : c ∈ (resolve g policy cv).plan.classes) : c.name ≠ "" := by
  have known := mem_classes_of_resolve h hc
  rw [Model.classes_ofGraph] at known
  obtain ⟨e, he, rfl⟩ := List.mem_map.1 known
  have kept := (List.mem_filter.1 he).2
  exact (of_decide_eq_true kept).2.1

theorem name_ne_of_mem_enumerations (h : (resolve g policy cv).fault? = none) {d : Enumeration}
    (hd : d ∈ (resolve g policy cv).plan.enumerations) : d.name ≠ "" := by
  rw [enumerations_resolve h] at hd
  obtain ⟨d', hd', rfl⟩ := List.mem_map.1 hd
  obtain ⟨x, hx, hxd⟩ := List.mem_filterMap.1 hd'
  obtain ⟨e, -, hex⟩ := List.mem_filterMap.1 hx
  show d'.name ≠ ""
  exact Entity.name_ne_of_enumeration? hex hxd

end Resolved

namespace Source

/-- The file for a plan refers to the blank identifier if and only if it refers to a class or to an
enumeration whose name is a single character that is no letter and no digit. -/
theorem blank_referenced_iff {g : Graph} {policy : Policy} {cv : Conventions} {t : Target}
    {header : String} {f : File} (resolved : (resolve g policy cv).fault? = none)
    (hf : assemble t header (.ofCalls (resolve g policy cv).plan.calls) = .ok f) :
    let p := (resolve g policy cv).plan
    let r := Recording.ofCalls p.calls
    "_" ∈ f.references ↔
      (∃ c ∈ p.classes, IsBlank c.name ∧ r.Refers (.structural c.name)) ∨
        ∃ e ∈ p.enumerations, IsBlank e.name ∧ r.Refers (.enumeration e.name) := by
  intro p r
  obtain ⟨classes, h⟩ := assembled_of_assemble hf
  have recorded : declaredThings r.classes r.enumerations =
      p.classes.map (fun c => .structural c.name) ++
        p.enumerations.map fun e => .enumeration e.name := by
    rw [show r = _ from Recording.ofCalls_calls p, declaredThings, List.map_map]
    rfl
  have blank {name : String} (named : name ≠ "") : identifierFor name = "_" ↔ IsBlank name :=
    (identifierFor_eq_underscore_iff name).trans (or_iff_right named)
  rw [h.mem_references_iff (by decide), show declaredThings _ _ = _ from recorded]
  constructor
  · rintro ⟨n, hn, refers, same⟩
    rcases List.mem_append.1 hn with hn | hn
    · obtain ⟨c, hc, rfl⟩ := List.mem_map.1 hn
      exact .inl ⟨c, hc, (blank (name_ne_of_mem_classes resolved hc)).1 same, refers⟩
    · obtain ⟨e, he, rfl⟩ := List.mem_map.1 hn
      exact .inr ⟨e, he, (blank (name_ne_of_mem_enumerations resolved he)).1 same, refers⟩
  · rintro (⟨c, hc, isBlank, refers⟩ | ⟨e, he, isBlank, refers⟩)
    · exact ⟨_, List.mem_append_left _ (List.mem_map.2 ⟨c, hc, rfl⟩), refers,
        (blank (name_ne_of_mem_classes resolved hc)).2 isBlank⟩
    · exact ⟨_, List.mem_append_right _ (List.mem_map.2 ⟨e, he, rfl⟩), refers,
        (blank (name_ne_of_mem_enumerations resolved he)).2 isBlank⟩

/-- A class with an attribute; its name is given. -/
def box (name : String) : Graph where
  elements :=
    [⟨"box", "Class", [("name", .scalar name), ("ownedAttribute", .ref "size")]⟩,
     ⟨"size", "Property", [("name", .scalar "size")]⟩]
  ids_nodup := (by decide : ["box", "size"].Nodup)
  ids_ne := by simp

/-- With a name of more than one character no reference is blank. -/
theorem blank_referenced_iff_box :
    ∃ f, (resolve (box "--") .none {}).fault? = none ∧
      assemble {} "" (.ofCalls (resolve (box "--") .none {}).plan.calls) = .ok f ∧
      f.references = ["__"] ∧ "_" ∉ f.references := by
  have resolved : (resolve (box "--") .none {}).fault? = none := by decide +kernel
  have recorded : (Recording.ofCalls (resolve (box "--") .none {}).plan.calls).classes =
      [⟨⟨"box", "--"⟩, []⟩] := by decide +kernel
  have ordered : classOrder
      (Recording.ofCalls (resolve (box "--") .none {}).plan.calls).classes = .ok [0] := by
    rw [recorded]
    decide +kernel
  have structural : takeAll .structural (reservedBy {}) ["--"] =
      .ok (("__", .structural "--") :: reservedBy {}) := by decide +kernel
  have hf := assemble_of_takeAll {} "" (by decide +kernel) ordered
    (by rw [recorded]; exact structural) rfl
  have named : (resolve (box "--") .none {}).plan.classes.map (·.name) = ["--"] ∧
      (resolve (box "--") .none {}).plan.enumerations = [] := by decide +kernel
  refine ⟨_, resolved, hf, by decide +kernel, fun blank => ?_⟩
  rcases (blank_referenced_iff resolved hf).1 blank with ⟨c, hc, ⟨d, same, -⟩, -⟩ | ⟨e, he, -⟩
  · have two : c.name ∈ ["--"] := named.1 ▸ List.mem_map_of_mem hc
    rw [List.mem_singleton.1 two] at same
    cases same
  · rw [named.2] at he
    cases he

/-- A class whose name is a dash has the blank identifier, on which its attribute is declared. -/
theorem blank_referenced_box :
    (resolve (box "-") .none {}).fault? = none ∧
      ∃ f, assemble {} "" (.ofCalls (resolve (box "-") .none {}).plan.calls) = .ok f ∧
        (f.properties.map fun s => (s.owner, s.term.name)) = [("_", "size")] ∧
        "_" ∈ f.references := by
  have recorded : (Recording.ofCalls (resolve (box "-") .none {}).plan.calls).classes =
      [⟨⟨"box", "-"⟩, []⟩] := by decide +kernel
  have ordered : classOrder
      (Recording.ofCalls (resolve (box "-") .none {}).plan.calls).classes = .ok [0] := by
    rw [recorded]
    decide +kernel
  have structural : takeAll .structural (reservedBy {}) ["-"] =
      .ok (("_", .structural "-") :: reservedBy {}) := by decide +kernel
  have hf := assemble_of_takeAll {} "" (by decide +kernel) ordered
    (by rw [recorded]; exact structural) rfl
  exact ⟨by decide +kernel, _, hf, by decide +kernel, by decide +kernel⟩

end Source

end ModelCompiler
