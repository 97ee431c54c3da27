import ModelCompiler.Proofs.Model.Identity
import ModelCompiler.Proofs.Plan.Frame

/-!
# Which classes a plan retains

Classes go through four passes: unnamed ones and enumerations are set apart, stereotypes are handed
down, and metaclasses and classes of scalar values are dropped.  Main statement: what is left is, in
document order, what passes one test of the element.  It holds for every run that gets past the
stereotypes, whether or not it is stopped later.
-/

namespace ModelCompiler

/-! ## The targets of extensions -/

namespace Graph

/-- An element is a target of an extension if it types a member end that has an owner or, when no
typed member end has an owner, if it types the first typed member end. -/
def IsTarget (g : Graph) (x t : Element) : Prop :=
  (∃ e ∈ g.resolve x "memberEnd", e.has "class_" ∧ g.resolveFirst? e "type" = some t) ∨
    ((∀ e ∈ g.resolve x "memberEnd", e.has "class_" → g.resolveFirst? e "type" = none) ∧
      (g.resolve x "memberEnd").findSome? (fun e => g.resolveFirst? e "type") = some t)

instance (g : Graph) (x t : Element) : Decidable (g.IsTarget x t) :=
  inferInstanceAs (Decidable (_ ∨ _))

theorem resolveFirst?_mem {g : Graph} {e t : Element} {field : String}
    (h : g.resolveFirst? e field = some t) : t ∈ g.elements := by
  obtain ⟨id, -, hid⟩ := List.mem_filterMap.1 (List.mem_of_mem_head? h)
  exact (get?_eq_some.1 hid).1

theorem IsTarget.mem {g : Graph} {x t : Element} (h : g.IsTarget x t) : t ∈ g.elements := by
  rcases h with ⟨e, -, -, ht⟩ | ⟨-, ht⟩
  · exact resolveFirst?_mem ht
  · obtain ⟨e, -, ht⟩ := List.exists_of_findSome?_eq_some ht
    exact resolveFirst?_mem ht

/-- The metaclasses of an extension are the targets of its element. -/
theorem mem_metaclasses (g : Graph) (x t : Element) :
    t ∈ g.metaclasses { id := x.id, memberEnds := x.refs "memberEnd" } ↔ g.IsTarget x t := by
  let ends := g.resolve x "memberEnd"
  let typed := ends.filterMap fun e => (g.resolveFirst? e "type").map fun t => (e, t)
  let owned := (typed.filter fun p => p.1.has "class_").map (·.2)
  have mem_owned (t : Element) : t ∈ owned ↔
      ∃ e ∈ ends, e.has "class_" ∧ g.resolveFirst? e "type" = some t := by
    simp only [owned, typed, List.mem_map, List.mem_filter, List.mem_filterMap,
      Option.map_eq_some_iff]
    constructor
    · rintro ⟨_, ⟨⟨e, he, t, ht, rfl⟩, hc⟩, rfl⟩
      exact ⟨e, he, hc, ht⟩
    · rintro ⟨e, he, hc, ht⟩
      exact ⟨(e, t), ⟨⟨e, he, t, ht, rfl⟩, hc⟩, rfl⟩
  have types : typed.map (·.2) = ends.filterMap fun e => g.resolveFirst? e "type" := by
    simp [typed, List.map_filterMap, Function.comp_def]
  change t ∈ (if owned.isEmpty then (typed.map (·.2)).take 1 else owned) ↔ _
  cases ho : owned with
  | nil =>
    have unowned : ∀ e ∈ ends, e.has "class_" → g.resolveFirst? e "type" = none := by
      intro e he hc
      refine Option.eq_none_iff_forall_not_mem.2 fun t ht => ?_
      have some : t ∈ owned := (mem_owned t).2 ⟨e, he, hc, ht⟩
      rw [ho] at some
      cases some
    rw [List.isEmpty_nil, if_pos rfl, types, List.take_one, Option.mem_toList,
      List.head?_filterMap]
    refine ⟨fun h => .inr ⟨unowned, h⟩, ?_⟩
    rintro (⟨e, he, hc, ht⟩ | ⟨-, h⟩)
    · rw [unowned e he hc] at ht
      cases ht
    · exact h
  | cons s rest =>
    obtain ⟨e, he, hc, hs⟩ := (mem_owned s).1 (by rw [ho]; exact List.mem_cons_self)
    rw [← ho, if_neg (by simp [ho]), mem_owned]
    refine ⟨.inl, ?_⟩
    rintro (h | ⟨unowned, -⟩)
    · exact h
    · rw [unowned e he hc] at hs
      cases hs

end Graph

/-! ## The classes of a model -/

/-- The class that an element is. -/
def Class.ofElement (e : Element) : Class where
  id := e.id
  name := e.name
  appliedStereotypes := e.refs "appliedStereotype"
  ownedAttributes := e.refs "ownedAttribute"
  ownedOperations := e.refs "ownedOperation"

theorem Entity.class?_ofElement? (cv : Conventions) (g : Graph) (e : Element) :
    (Entity.ofElement? cv g e).bind Entity.class? =
      if e.type = "Class" ∧ e.name ≠ "" ∧ isEnumerationName cv.enumerationSuffixes e.name = false
      then some (Class.ofElement e) else none := by
  unfold ofElement?
  split
  · rename_i isClass
    by_cases unnamed : e.name = ""
    · simp [unnamed]
    · cases enumeration : isEnumerationName cv.enumerationSuffixes e.name <;>
        simp [isClass, unnamed, class?, Class.ofElement]
  all_goals simp_all [class?]

/-- The extension that an element is. -/
def Extension.ofElement (e : Element) : Extension where
  id := e.id
  memberEnds := e.refs "memberEnd"

theorem Entity.extension?_ofElement? (cv : Conventions) (g : Graph) (e : Element) :
    (Entity.ofElement? cv g e).bind Entity.extension? =
      if e.type = "Extension" then some (Extension.ofElement e) else none := by
  refine pick_ofElement? (fun x a h => ?_) (fun e h => ?_) e
  · cases x <;> cases h
    rfl
  · simp [ofElement?, h, extension?, Extension.ofElement]

namespace Model

variable {cv : Conventions} {g : Graph}

theorem classes_ofGraph (cv : Conventions) (g : Graph) :
    (Model.ofGraph cv g).classes =
      (g.elements.filter fun e => e.type = "Class" ∧ e.name ≠ "" ∧
        isEnumerationName cv.enumerationSuffixes e.name = false).map Class.ofElement :=
  view_eq_map_filter (Entity.class?_ofElement? cv g)

theorem mem_extensions_ofGraph {x : Extension} :
    x ∈ (Model.ofGraph cv g).extensions ↔
      ∃ e ∈ g.elements, e.type = "Extension" ∧ Extension.ofElement e = x := by
  have extensions : (Model.ofGraph cv g).extensions = _ :=
    view_eq_map_filter (Entity.extension?_ofElement? cv g)
  simp only [extensions, List.mem_map, List.mem_filter, decide_eq_true_eq, and_assoc]

/-- A class is a metaclass if its element is the target of an extension. -/
theorem isMetaclass_settled {e : Element} (he : e ∈ g.elements) :
    (g.settled cv).isMetaclass e.id ↔
      ∃ x ∈ g.elements, x.type = "Extension" ∧ g.IsTarget x e := by
  have same {t : Element} (ht : t ∈ g.elements) (hid : t.id = e.id) : t = e :=
    List.inj_on_of_nodup_map g.ids_nodup ht he hid
  simp only [isMetaclass, List.any_eq_true, beq_iff_eq]
  constructor
  · rintro ⟨x, hx, t, ht, hid⟩
    obtain ⟨y, hy, isExtension, rfl⟩ := mem_extensions_ofGraph.1 hx
    have target : g.IsTarget y t := (g.mem_metaclasses y t).1 ht
    exact ⟨y, hy, isExtension, same target.mem hid ▸ target⟩
  · rintro ⟨x, hx, isExtension, target⟩
    exact ⟨_, mem_extensions_ofGraph.2 ⟨x, hx, isExtension, rfl⟩, e,
      (g.mem_metaclasses x e).2 target, rfl⟩

theorem isMetaclass_settled_eq_false (cv : Conventions) {e : Element} (he : e ∈ g.elements) :
    (g.settled cv).isMetaclass e.id = false ↔
      ∀ x ∈ g.elements, x.type = "Extension" → ¬g.IsTarget x e := by
  rw [← Bool.not_eq_true, isMetaclass_settled he]
  simp

end Model

/-! ## Plans -/

/-- An element is retained if it is a class with a name that is none of an enumeration, no
extension attaches to it, and it has not been given the stereotype of scalar values. -/
structure Graph.Retains (g : Graph) (cv : Conventions) (stereotype : String) (e : Element) :
    Prop where
  isClass : e.type = "Class"
  named : e.name ≠ ""
  noEnumeration : ∀ suffix ∈ cv.enumerationSuffixes, suffix ≠ "" →
    ¬suffix.toList <:+ e.name.toList
  noMetaclass : ∀ x ∈ g.elements, x.type = "Extension" → ¬g.IsTarget x e
  noScalar : stereotype = "" ∨ stereotype ≠ cv.simpleAttribute

instance (g : Graph) (cv : Conventions) (stereotype : String) (e : Element) :
    Decidable (g.Retains cv stereotype e) :=
  decidable_of_iff (e.type = "Class" ∧ e.name ≠ "" ∧
      (∀ suffix ∈ cv.enumerationSuffixes, suffix ≠ "" → ¬suffix.toList <:+ e.name.toList) ∧
      (∀ x ∈ g.elements, x.type = "Extension" → ¬g.IsTarget x e) ∧
      (stereotype = "" ∨ stereotype ≠ cv.simpleAttribute))
    ⟨fun ⟨a, b, c, d, e⟩ => ⟨a, b, c, d, e⟩, fun ⟨a, b, c, d, e⟩ => ⟨a, b, c, d, e⟩⟩

theorem isEnumerationName_eq_false {suffixes : List String} {name : String} :
    isEnumerationName suffixes name = false ↔
      ∀ suffix ∈ suffixes, suffix ≠ "" → ¬suffix.toList <:+ name.toList := by
  simp [isEnumerationName, Text.hasEnding]

theorem Model.hasStereotype_eq_false {m : Model} {id name : String} :
    m.hasStereotype id name = false ↔ m.stereotype id = "" ∨ m.stereotype id ≠ name := by
  simp [hasStereotype, or_iff_not_imp_left]

/-- The settled model has dropped what a graph does not retain. -/
theorem Graph.retained_settled (g : Graph) (cv : Conventions) :
    (g.settled cv).withoutStereotype cv.simpleAttribute
        ((g.settled cv).withoutMetaclasses (g.settled cv).classes) =
      (g.elements.filter fun e => g.Retains cv ((g.settled cv).stereotype e.id) e).map
        Class.ofElement := by
  have classes : (g.settled cv).classes = (Model.ofGraph cv g).classes := rfl
  rw [classes, Model.classes_ofGraph, Model.withoutStereotype, Model.withoutMetaclasses,
    List.filter_map, List.filter_map, List.filter_filter, List.filter_filter]
  congr 1
  refine List.filter_congr fun e he => ?_
  have metaclass := Model.isMetaclass_settled_eq_false cv he
  rw [Bool.eq_iff_iff, decide_eq_true_iff]
  simp only [Function.comp_apply, Class.ofElement, Bool.and_eq_true, Bool.not_eq_true',
    decide_eq_true_eq, Model.hasStereotype_eq_false, metaclass, isEnumerationName_eq_false]
  constructor
  · rintro ⟨⟨noScalar, noMetaclass⟩, isClass, named, noEnumeration⟩
    exact ⟨isClass, named, noEnumeration, noMetaclass, noScalar⟩
  · rintro ⟨isClass, named, noEnumeration, noMetaclass, noScalar⟩
    exact ⟨⟨noScalar, noMetaclass⟩, isClass, named, noEnumeration⟩

/-- The classes of a plan are, in document order, the elements that the graph retains, given the
stereotypes that have been handed down. -/
theorem classes_eq_filter_retains (g : Graph) (policy : Policy) (cv : Conventions)
    (h : ∀ c, (resolve g policy cv).fault? ≠ some (.generalizationCycle c)) :
    let p := (resolve g policy cv).plan
    p.classes = (g.elements.filter fun e => g.Retains cv (p.model.stereotype e.id) e).map
      Class.ofElement := by
  obtain ⟨model, classes⟩ := plan_of_no_cycle h
  intro p
  rw [show p.classes = _ from classes, show p.model = _ from model, g.retained_settled cv]
  rfl

/-- A class among a nameless one, an enumeration, a metaclass and two scalar classes, one of which
has its stereotype from the other. -/
def workshop : Graph where
  elements :=
    [⟨"tool", "Class", [("name", .scalar "Tool")]⟩,
     ⟨"nameless", "Class", []⟩,
     ⟨"kind", "Class", [("name", .scalar "ToolKind")]⟩,
     ⟨"meta", "Class", [("name", .scalar "Element")]⟩,
     ⟨"base", "Property", [("type", .ref "meta")]⟩,
     ⟨"extension", "Extension", [("memberEnd", .refList ["nowhere", "base"])]⟩,
     ⟨"text", "Class", [("name", .scalar "Text"), ("appliedStereotype", .ref "applied")]⟩,
     ⟨"applied", "InstanceSpecification", [("classifier", .ref "stereotype")]⟩,
     ⟨"stereotype", "Stereotype", [("name", .scalar "SimpleAttribute")]⟩,
     ⟨"label", "Class", [("name", .scalar "Label")]⟩,
     ⟨"link", "Generalization", [("specific", .ref "label"), ("general", .ref "text")]⟩]
  ids_nodup := by decide
  ids_ne := by decide

theorem classes_eq_filter_retains_workshop :
    (∀ c, (resolve workshop .none {}).fault? ≠ some (.generalizationCycle c)) ∧
    (resolve workshop .none {}).plan.classes = [{ id := "tool", name := "Tool" }] ∧
    (resolve workshop .none {}).plan.classes =
      (workshop.elements.filter fun e => workshop.Retains {}
        ((resolve workshop .none {}).plan.model.stereotype e.id) e).map Class.ofElement := by
  have runs : (resolve workshop .none {}).fault? = none := by decide +kernel
  have passes : ∀ c, (resolve workshop .none {}).fault? ≠ some (.generalizationCycle c) := by
    simp [runs]
  exact ⟨passes, by decide +kernel, classes_eq_filter_retains workshop .none {} passes⟩

end ModelCompiler
