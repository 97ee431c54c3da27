import ModelCompiler.Model.Hierarchy
import ModelCompiler.Proofs.Model.Identity

/-!
# Linking classes both ways

A generalization between two classes appends the one to the supertypes of the other and the other to
the subtypes of the one.  Main statement: after all generalizations either list of a class has what
they say about it, in document order, and nothing else of the model has changed.
-/

namespace ModelCompiler

namespace Model

variable {m : Model}

/-- The links that the generalizations of a model stand for. -/
def links (m : Model) : List Link := m.generalizations.filterMap m.link?

def classRefs (m : Model) : List ClassRef := m.classes.map (·.toClassRef)

end Model

/-! ## Link by link -/

namespace Hierarchy

theorem supertypes_foldl_add (h : Hierarchy) (ls : List Link) (id : String) :
    (ls.foldl add h).supertypes.of id =
      h.supertypes.of id ++ (ls.filter (·.specific.id == id)).map (·.general) := by
  induction ls generalizing h with
  | nil => simp
  | cons l ls ih =>
    rw [List.foldl_cons, ih, add, Kin.of_add, List.append_assoc]
    by_cases same : l.specific.id = id <;> simp [same]

theorem subtypes_foldl_add (h : Hierarchy) (ls : List Link) (id : String) :
    (ls.foldl add h).subtypes.of id =
      h.subtypes.of id ++ (ls.filter (·.general.id == id)).map (·.specific) := by
  induction ls generalizing h with
  | nil => simp
  | cons l ls ih =>
    rw [List.foldl_cons, ih, add, Kin.of_add, List.append_assoc]
    by_cases same : l.general.id = id <;> simp [same]

end Hierarchy

/-! ## All generalizations -/

namespace Model

variable {m : Model}

theorem hierarchy_linkClasses (m : Model) :
    m.linkClasses.hierarchy = m.links.foldl Hierarchy.add m.hierarchy := by
  rw [links, List.foldl_filterMap, linkClasses]
  refine List.foldl_ext _ _ _ fun h g _ => ?_
  cases m.link? g <;> rfl

theorem generals_linkClasses (fresh : m.hierarchy = {}) (id : String) :
    m.linkClasses.generals id = (m.links.filter (·.specific.id == id)).map (·.general) := by
  rw [generals, hierarchy_linkClasses, Hierarchy.supertypes_foldl_add, fresh]
  rfl

theorem specials_linkClasses (fresh : m.hierarchy = {}) (id : String) :
    m.linkClasses.specials id = (m.links.filter (·.general.id == id)).map (·.specific) := by
  rw [specials, hierarchy_linkClasses, Hierarchy.subtypes_foldl_add, fresh]
  rfl

/-! ## Models whose links are between their classes -/

theorem ids_classRefs (m : Model) : m.classRefs.map (·.id) = m.classes.map (·.id) := by
  rw [classRefs, List.map_map]
  rfl

theorem toClassRef_mem_classRefs {c : Class} (hc : c ∈ m.classes) : c.toClassRef ∈ m.classRefs :=
  List.mem_map_of_mem hc

/-- Both ends of a link are classes of the model. -/
theorem ends_mem_of_mem_links {l : Link} (h : l ∈ m.links) :
    l.specific ∈ m.classRefs ∧ l.general ∈ m.classRefs := by
  obtain ⟨x, -, hx⟩ := List.mem_filterMap.1 h
  simp only [link?, bind, Option.bind_eq_some_iff, Option.some.injEq] at hx
  obtain ⟨specific, hs, general, hg, rfl⟩ := hx
  exact ⟨toClassRef_mem_classRefs (mem_classes_of_class? hs),
    toClassRef_mem_classRefs (mem_classes_of_class? hg)⟩

/-- Classes have identifiers of their own, and only classes have supertypes and subtypes, which are
classes as well. -/
structure Linked (m : Model) : Prop where
  ids_nodup : (m.classes.map (·.id)).Nodup
  of_mem_generals : ∀ {id c}, c ∈ m.generals id → id ∈ m.classes.map (·.id) ∧ c ∈ m.classRefs
  of_mem_specials : ∀ {id c}, c ∈ m.specials id → id ∈ m.classes.map (·.id) ∧ c ∈ m.classRefs

theorem Linked.eq_of_id_eq (h : m.Linked) {c d : ClassRef} (hc : c ∈ m.classRefs)
    (hd : d ∈ m.classRefs) (hid : c.id = d.id) : c = d :=
  List.inj_on_of_nodup_map (m.ids_classRefs ▸ h.ids_nodup) hc hd hid

/-- A graph has a model whose links are between its classes. -/
theorem linked_linkClasses (cv : Conventions) (g : Graph) :
    (Model.ofGraph cv g).linkClasses.Linked where
  ids_nodup := ids_classes_ofGraph_nodup cv g
  of_mem_generals {id c} hc := by
    rw [generals_linkClasses rfl, List.mem_map] at hc
    obtain ⟨l, hl, rfl⟩ := hc
    obtain ⟨hl, same⟩ := List.mem_filter.1 hl
    obtain ⟨specific, general⟩ := ends_mem_of_mem_links hl
    rw [← ids_classRefs]
    exact ⟨List.mem_map.2 ⟨_, specific, beq_iff_eq.1 same⟩, general⟩
  of_mem_specials {id c} hc := by
    rw [specials_linkClasses rfl, List.mem_map] at hc
    obtain ⟨l, hl, rfl⟩ := hc
    obtain ⟨hl, same⟩ := List.mem_filter.1 hl
    obtain ⟨specific, general⟩ := ends_mem_of_mem_links hl
    rw [← ids_classRefs]
    exact ⟨List.mem_map.2 ⟨_, general, beq_iff_eq.1 same⟩, specific⟩

end Model

end ModelCompiler
