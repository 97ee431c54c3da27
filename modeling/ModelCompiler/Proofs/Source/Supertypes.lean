import ModelCompiler.Proofs.Model.Linking
import ModelCompiler.Proofs.Plan.Members
import ModelCompiler.Proofs.Source.Assembly
import ModelCompiler.Proofs.Source.Recording

/-!
# Where class variables refer to their supertypes

Classes are ordered by what they are and refer to their supertypes by name.  The two agree where a
supertype is generated itself and is another class.  A class that specializes itself refers to its
own variable, and a class whose supertype is left out refers to a generated class of the same name,
wherever that stands.  Main statement: apart from these two cases every class variable refers to
earlier variables only.
-/

namespace ModelCompiler.Source

/-- The variable of one class is declared before that of another; classes are given by name. -/
def File.Precedes (f : File) (a b : String) : Prop :=
  ∃ j i : Nat, j < i ∧ (f.classes[j]?).map (·.name) = some a ∧ (f.classes[i]?).map (·.name) = some b

/-- Class variables refer to earlier class variables only. -/
def File.SupertypesFirst (f : File) : Prop :=
  ∀ (i : Nat) (d : ClassDecl), f.classes[i]? = some d →
    ∀ x ∈ d.generals, ∃ j < i, (f.classes[j]?).map (·.ident) = some x

namespace Assembled

variable {t : Target} {header : String} {r : Recording} {classes : List ClassDef} {f : File}

theorem getElem?_classes (h : Assembled t header r classes f) (i : Nat) :
    f.classes[i]? = (classes[i]?).map (classDecl f.scope) := by
  rw [h.classes_eq, List.getElem?_map]

/-- Positions of class variables are told apart by identifiers. -/
theorem index_eq (h : Assembled t header r classes f) {i j : Nat} {c d : ClassDef}
    (hc : classes[i]? = some c) (hd : classes[j]? = some d)
    (he : identifierFor c.name = identifierFor d.name) : i = j :=
  index_eq_of_key h.idents_nodup hc hd he

/-- The same in terms of recorded classes: every class whose name a supertype has comes before. -/
theorem supertypesFirst_iff (h : Assembled t header r classes f) :
    f.SupertypesFirst ↔ ∀ (i : Nat) (c : ClassDef), classes[i]? = some c → ∀ g ∈ c.generals,
      ∀ d ∈ classes, d.name = g.name → ∃ j < i, classes[j]? = some d := by
  constructor
  · intro first i c hc g hg d hd hn
    have hx : identifierFor d.name ∈ (classDecl f.scope c).generals :=
      List.mem_filterMap.2 ⟨g, hg, h.class?_scope_eq_some.2 ⟨⟨d, hd, hn⟩, by rw [hn]⟩⟩
    obtain ⟨j, hj, he⟩ := first i _ (by rw [h.getElem?_classes, hc]; rfl) _ hx
    rw [h.getElem?_classes, Option.map_map, Option.map_eq_some_iff] at he
    obtain ⟨e, hje, he⟩ := he
    have same : e = d := h.eq_of_identifier_eq (List.mem_of_getElem? hje) hd he
    exact ⟨j, hj, same ▸ hje⟩
  · intro first i d hd x hx
    rw [h.getElem?_classes, Option.map_eq_some_iff] at hd
    obtain ⟨c, hc, rfl⟩ := hd
    obtain ⟨g, hg, hgx⟩ := List.mem_filterMap.1 hx
    obtain ⟨⟨e, he, hn⟩, rfl⟩ := h.class?_scope_eq_some.1 hgx
    obtain ⟨j, hj, hje⟩ := first i c hc g hg e he hn
    refine ⟨j, hj, ?_⟩
    rw [h.getElem?_classes, hje, ← hn]
    rfl

/-- A class comes after every other recorded class that it specializes. -/
theorem supertype_first (h : Assembled t header r classes f) (ids : (r.classes.map (·.id)).Nodup)
    {i : Nat} {c d : ClassDef} (hc : classes[i]? = some c) (hd : d ∈ classes) {g : ClassRef}
    (hg : g ∈ c.generals) (hid : d.id = g.id) (hne : d.id ≠ c.id) :
    ∃ j < i, classes[j]? = some d := by
  obtain ⟨order, ho, hs⟩ := h.ordered
  obtain ⟨hi, rfl⟩ := List.getElem?_eq_some_iff.1 hc
  have split : classes = classes.take i ++ classes[i] :: classes.drop (i + 1) := by simp
  have before := mem_of_classOrder ho ids (hs.symm.trans split) hg (h.perm.mem_iff.1 hd) hid hne
  obtain ⟨j, hj⟩ := List.mem_iff_getElem?.1 before
  rw [List.getElem?_take] at hj
  split at hj
  · rename_i hji
    exact ⟨j, hji, hj⟩
  · cases hj

theorem precedes_iff (h : Assembled t header r classes f) {i : Nat} {c d : ClassDef}
    (hc : classes[i]? = some c) (hd : d ∈ classes) :
    f.Precedes d.name c.name ↔ ∃ j < i, classes[j]? = some d := by
  constructor
  · rintro ⟨j, k, hjk, hj, hk⟩
    rw [h.getElem?_classes, Option.map_map, Option.map_eq_some_iff] at hj hk
    obtain ⟨e, hje, hen⟩ := hj
    obtain ⟨e', hke, hen'⟩ := hk
    have hk : k = i := h.index_eq hke hc (congrArg identifierFor hen')
    have same : e = d :=
      h.eq_of_identifier_eq (List.mem_of_getElem? hje) hd (congrArg identifierFor hen)
    exact ⟨j, hk ▸ hjk, same ▸ hje⟩
  · rintro ⟨j, hj, hjd⟩
    refine ⟨j, i, hj, ?_, ?_⟩
    · rw [h.getElem?_classes, hjd]
      rfl
    · rw [h.getElem?_classes, hc]
      rfl

end Assembled

/-! ## Files for plans -/

section Resolved

variable {g : Graph} {policy : Policy} {cv : Conventions}

theorem generals_resolve (h : (resolve g policy cv).fault? = none) :
    (resolve g policy cv).plan.model.generals = (Model.ofGraph cv g).linkClasses.generals := by
  rw [model_resolve h]
  rfl

theorem ids_classes_resolve_nodup (h : (resolve g policy cv).fault? = none) :
    ((resolve g policy cv).plan.classes.map (·.id)).Nodup := by
  rw [classes_resolve h]
  have all := Model.ids_classes_ofGraph_nodup cv g
  exact all.sublist ((List.filter_sublist.trans List.filter_sublist).map _)

/-- Where a supertype is a generated class, it is called as that class is. -/
theorem toClassRef_eq_of_mem_generals (h : (resolve g policy cv).fault? = none) {id : String}
    {s : ClassRef} (hs : s ∈ (resolve g policy cv).plan.model.generals id) {c : Class}
    (hc : c ∈ (resolve g policy cv).plan.classes) (hid : c.id = s.id) : c.toClassRef = s := by
  rw [generals_resolve h] at hs
  have linked := Model.linked_linkClasses cv g
  exact linked.eq_of_id_eq (Model.toClassRef_mem_classRefs (mem_classes_of_resolve h hc))
    (linked.of_mem_generals hs).2 hid

end Resolved

/-- In the file for a plan, class variables refer to earlier class variables only, if and only if
no generated class specializes itself and every generated class that has the name of a left-out
supertype is declared before the subtype. -/
theorem supertypesFirst_iff_of_resolve {g : Graph} {policy : Policy} {cv : Conventions}
    {t : Target} {header : String} {f : File}
    (resolved : (resolve g policy cv).fault? = none)
    (hf : assemble t header (Recording.ofCalls (resolve g policy cv).plan.calls) = .ok f) :
    f.SupertypesFirst ↔
      ∀ c ∈ (resolve g policy cv).plan.classes,
        ∀ s ∈ (resolve g policy cv).plan.model.generals c.id,
          s.id ≠ c.id ∧
          (s.id ∉ (resolve g policy cv).plan.classes.map (·.id) →
            ∀ d ∈ (resolve g policy cv).plan.classes, d.name = s.name →
              f.Precedes d.name c.name) := by
  obtain ⟨classes, h⟩ := assembled_of_assemble hf
  rw [Recording.ofCalls_calls] at h
  let p := (resolve g policy cv).plan
  have recorded : ∀ d, d ∈ classes ↔ ∃ c ∈ p.classes, p.classDef c = d := fun d =>
    h.perm.mem_iff.trans List.mem_map
  have ids : ((p.classes.map p.classDef).map (·.id)).Nodup := by
    rw [List.map_map]
    exact ids_classes_resolve_nodup resolved
  rw [h.supertypesFirst_iff]
  constructor
  · intro first c hc s hs
    obtain ⟨i, hi⟩ := List.mem_iff_getElem?.1 ((recorded _).2 ⟨c, hc, rfl⟩)
    constructor
    · intro self
      have same : c.toClassRef = s := toClassRef_eq_of_mem_generals resolved hs hc self.symm
      obtain ⟨j, hj, hjc⟩ := first i _ hi s hs _ (List.mem_of_getElem? hi)
        (congrArg ClassRef.name same)
      exact absurd (h.index_eq hjc hi rfl) (Nat.ne_of_lt hj)
    · intro _ d hd hn
      refine (h.precedes_iff hi ((recorded _).2 ⟨d, hd, rfl⟩)).2 ?_
      exact first i _ hi s hs _ ((recorded _).2 ⟨d, hd, rfl⟩) hn
  · intro supertypes i c' hi s hs d' hd hn
    obtain ⟨c, hc, rfl⟩ := (recorded _).1 (List.mem_of_getElem? hi)
    obtain ⟨d, hdp, rfl⟩ := (recorded _).1 hd
    obtain ⟨hne, leftOut⟩ := supertypes c hc s hs
    by_cases hgen : s.id ∈ p.classes.map (·.id)
    · -- names are distinct, so the class with the name of the supertype is the supertype
      obtain ⟨e, he, hid⟩ := List.mem_map.1 hgen
      have general : e.toClassRef = s := toClassRef_eq_of_mem_generals resolved hs he hid
      have same : p.classDef d = p.classDef e := by
        refine h.eq_of_identifier_eq hd ((recorded _).2 ⟨e, he, rfl⟩) ?_
        exact congrArg identifierFor (hn.trans (congrArg ClassRef.name general).symm)
      rw [same]
      refine h.supertype_first ids hi ((recorded _).2 ⟨e, he, rfl⟩) hs hid fun hec => ?_
      exact hne (hid.symm.trans hec)
    · exact (h.precedes_iff hi hd).1 (leftOut hgen d hdp hn)

/-- A subtype that stands before its supertype in the document. -/
def fleet : Graph where
  elements :=
    [⟨"car", "Class", [("name", .scalar "Car")]⟩,
     ⟨"vehicle", "Class", [("name", .scalar "Vehicle")]⟩,
     ⟨"link", "Generalization", [("specific", .ref "car"), ("general", .ref "vehicle")]⟩]
  ids_nodup := by decide
  ids_ne := by decide

theorem supertypesFirst_fleet :
    ∃ f, (resolve fleet .none {}).fault? = none ∧
      assemble {} "" (Recording.ofCalls (resolve fleet .none {}).plan.calls) = .ok f ∧
      f.classes.map (fun d => (d.ident, d.generals)) = [("Vehicle", []), ("Car", ["Vehicle"])] ∧
      f.SupertypesFirst := by
  have resolved : (resolve fleet .none {}).fault? = none := by decide +kernel
  let r : Recording :=
    { classes := [⟨⟨"car", "Car"⟩, [⟨"vehicle", "Vehicle"⟩]⟩, ⟨⟨"vehicle", "Vehicle"⟩, []⟩] }
  have recorded : Recording.ofCalls (resolve fleet .none {}).plan.calls = r := by decide +kernel
  have supertypes : ∀ c ∈ (resolve fleet .none {}).plan.classes,
      ∀ s ∈ (resolve fleet .none {}).plan.model.generals c.id,
        s.id ≠ c.id ∧ s.id ∈ (resolve fleet .none {}).plan.classes.map (·.id) := by decide +kernel
  have ordered : classOrder r.classes = .ok [1, 0] := by decide +kernel
  have hf := assemble_of_takeAll {} "" (by decide +kernel) ordered rfl rfl
  rw [← recorded] at hf
  refine ⟨_, resolved, hf, ?_, (supertypesFirst_iff_of_resolve resolved hf).2 ?_⟩
  · rw [recorded]
    decide +kernel
  · intro c hc s hs
    obtain ⟨other, generated⟩ := supertypes c hc s hs
    exact ⟨other, fun absent => absurd generated absent⟩

/-- A class that specializes itself. -/
def ouroboros : Graph where
  elements :=
    [⟨"a", "Class", [("name", .scalar "A")]⟩,
     ⟨"link", "Generalization", [("specific", .ref "a"), ("general", .ref "a")]⟩]
  ids_nodup := by decide
  ids_ne := by decide

theorem not_supertypesFirst_ouroboros :
    (resolve ouroboros .none {}).fault? = none ∧
      ∃ f, assemble {} "" (Recording.ofCalls (resolve ouroboros .none {}).plan.calls) = .ok f ∧
        f.classes = [{ ident := "A", name := "A", generals := ["A"] }] ∧ ¬f.SupertypesFirst := by
  let r : Recording := { classes := [⟨⟨"a", "A"⟩, [⟨"a", "A"⟩]⟩] }
  have recorded : Recording.ofCalls (resolve ouroboros .none {}).plan.calls = r := by
    decide +kernel
  have ordered : classOrder r.classes = .ok [0] := by decide +kernel
  have hf := assemble_of_takeAll {} "" (by decide +kernel) ordered rfl rfl
  have declared : (assembled {} "" r ([0].filterMap fun i => r.classes[i]?)).classes =
      [{ ident := "A", name := "A", generals := ["A"] }] := by decide +kernel
  rw [recorded]
  refine ⟨by decide +kernel, _, hf, declared, ?_⟩
  intro first
  obtain ⟨j, hj, -⟩ := first 0 _ (by rw [declared]; rfl) "A" (by simp)
  exact absurd hj (Nat.not_lt_zero j)

end ModelCompiler.Source
