import ModelCompiler.Model.Selection
import ModelCompiler.Model.Stereotype
import ModelCompiler.Plan.Association
import ModelCompiler.Plan.Attribute
import ModelCompiler.Proofs.Model.Linking

/-!
# Models of graphs that differ in order

The elements of a graph are looked up by identifier, and only classes, generalizations and
associations are gone through in order.  So a graph whose other elements are moved around has a
model that answers alike: the same lists of these three kinds, and the same answer to every look-up.
Main statement: whatever is read off a model is the same for both.
-/

namespace ModelCompiler

/-- The second graph has the elements of the first, and the classes, the generalizations and the
associations in the same order among themselves. -/
structure Graph.Reorders (g g' : Graph) : Prop where
  perm : g.elements.Perm g'.elements
  ordered : ∀ type ∈ ["Class", "Generalization", "Association"],
    g'.elements.filter (·.type == type) = g.elements.filter (·.type == type)

/-! ## Graphs -/

namespace Graph

variable {g g' : Graph}

theorem Reorders.get? (h : g.Reorders g') : g'.get? = g.get? := by
  funext id
  exact find?_key_perm g.ids_nodup h.perm id

theorem resolve_congr (h : g'.get? = g.get?) : g'.resolve = g.resolve := by
  funext e field
  rw [resolve, resolve, h]

theorem resolveFirst?_congr (h : g'.get? = g.get?) : g'.resolveFirst? = g.resolveFirst? := by
  funext e field
  rw [resolveFirst?, resolveFirst?, resolve_congr h]

theorem metaclasses_congr (h : g'.get? = g.get?) : g'.metaclasses = g.metaclasses := by
  funext x
  simp only [metaclasses, h, resolveFirst?_congr h]

theorem read_congr (h : g'.get? = g.get?) : Tags.read g' = Tags.read g := by
  have slot : Tags.readSlot g' = Tags.readSlot g := by
    funext t s
    rw [Tags.readSlot, Tags.readSlot, resolveFirst?_congr h]
  funext stereotypes
  rw [Tags.read, Tags.read, slot, resolve_congr h]

theorem lookupClass_congr (h : g'.get? = g.get?) : lookupClass g' = lookupClass g := by
  funext scope e field
  rw [lookupClass, lookupClass, resolveFirst?_congr h]

theorem ofElement?_congr (h : g'.get? = g.get?) (cv : Conventions) :
    Entity.ofElement? cv g' = Entity.ofElement? cv g := by
  funext e
  simp only [Entity.ofElement?, Property.ofElement, resolve_congr h]

end Graph

/-! ## What elements are -/

namespace Graph.Reorders

variable {g g' : Graph} {α : Type} {pick : Entity → Option α}

/-- Kinds whose elements keep their order are the same lists. -/
theorem view_eq (h : g.Reorders g') (cv : Conventions) (type : String)
    (ht : type ∈ ["Class", "Generalization", "Association"])
    (hp : ∀ x a, pick x = some a → x.type = type) :
    (g'.elements.filterMap (Entity.ofElement? cv g')).filterMap pick =
      (g.elements.filterMap (Entity.ofElement? cv g)).filterMap pick := by
  -- what is picked comes from elements of the type only
  have typed (es : List Element) : (es.filterMap (Entity.ofElement? cv g)).filterMap pick =
      ((es.filter (·.type == type)).filterMap (Entity.ofElement? cv g)).filterMap pick := by
    rw [List.filterMap_filterMap, List.filterMap_filterMap, List.filterMap_filter]
    refine List.filterMap_congr fun e _ => ?_
    split
    · rfl
    · rename_i other
      exact Option.eq_none_iff_forall_not_mem.2 fun a ha =>
        other (beq_iff_eq.2 (Entity.type_of_pick hp ha))
  rw [ofElement?_congr h.get? cv, typed g'.elements, h.ordered type ht, ← typed]

/-- Of any other kind the lists are the same but for their order. -/
theorem view_perm (h : g.Reorders g') (cv : Conventions) :
    ((g.elements.filterMap (Entity.ofElement? cv g)).filterMap pick).Perm
      ((g'.elements.filterMap (Entity.ofElement? cv g')).filterMap pick) := by
  rw [ofElement?_congr h.get? cv]
  exact (h.perm.filterMap _).filterMap _

/-- Look-ups by identifier give the same answers. -/
theorem lookup_eq (h : g.Reorders g') (cv : Conventions) {key : α → String}
    (hk : ∀ x a, pick x = some a → key a = x.id) (id : String) :
    ((g'.elements.filterMap (Entity.ofElement? cv g')).filterMap pick).find? (key · == id) =
      ((g.elements.filterMap (Entity.ofElement? cv g)).filterMap pick).find? (key · == id) :=
  find?_key_perm (Model.ids_view_nodup hk cv g) (h.view_perm cv) id

end Graph.Reorders

/-! ## Models -/

namespace Model

/-- Both models have the same classes, enumerations, generalizations and associations, with the
same links and stereotypes, and answer all look-ups alike. -/
structure Agrees (m m' : Model) : Prop where
  get? : m'.graph.get? = m.graph.get?
  classes : m'.classes = m.classes
  enumerations : m'.enumerations = m.enumerations
  generalizations : m'.generalizations = m.generalizations
  associations : m'.associations = m.associations
  hierarchy : m'.hierarchy = m.hierarchy
  stereotypes : m'.stereotypes = m.stereotypes
  property? : m'.property? = m.property?
  operation? : m'.operation? = m.operation?
  isMetaclass : m'.isMetaclass = m.isMetaclass

theorem agrees_ofGraph {g g' : Graph} (h : g.Reorders g') (cv : Conventions) :
    (Model.ofGraph cv g).Agrees (Model.ofGraph cv g') where
  get? := h.get?
  classes := h.view_eq cv "Class" (by decide) fun x a hx => by
    cases x <;> cases hx
    rfl
  enumerations := h.view_eq cv "Class" (by decide) fun x a hx => by
    cases x <;> cases hx
    rfl
  generalizations :=
    h.view_eq cv "Generalization" (by decide) fun _ _ => Entity.type_of_generalization?
  associations := h.view_eq cv "Association" (by decide) fun _ _ => Entity.type_of_association?
  hierarchy := rfl
  stereotypes := rfl
  property? := funext <| h.lookup_eq cv fun _ _ => Entity.id_of_property?
  operation? := funext <| h.lookup_eq cv fun _ _ => Entity.id_of_operation?
  isMetaclass := by
    funext id
    have moved : (Model.ofGraph cv g).extensions.Perm (Model.ofGraph cv g').extensions :=
      h.view_perm cv
    rw [isMetaclass, isMetaclass, moved.symm.any_eq]
    change (_ : List Extension).any (fun x => (g'.metaclasses x).any _) = _
    rw [Graph.metaclasses_congr h.get?]
    rfl

/-! ## What is read off a model -/

namespace Agrees

variable {m m' : Model}

theorem class? (h : m.Agrees m') : m'.class? = m.class? := by
  funext id
  rw [Model.class?, Model.class?, h.classes]

theorem enumeration? (h : m.Agrees m') : m'.enumeration? = m.enumeration? := by
  funext id
  rw [Model.enumeration?, Model.enumeration?, h.enumerations]

theorem hasStereotype (h : m.Agrees m') : m'.hasStereotype = m.hasStereotype := by
  funext id stereotype
  simp only [Model.hasStereotype, Model.stereotype, h.stereotypes]

theorem withoutMetaclasses (h : m.Agrees m') : m'.withoutMetaclasses = m.withoutMetaclasses := by
  funext cs
  rw [Model.withoutMetaclasses, Model.withoutMetaclasses, h.isMetaclass]

theorem withoutStereotype (h : m.Agrees m') : m'.withoutStereotype = m.withoutStereotype := by
  funext name cs
  rw [Model.withoutStereotype, Model.withoutStereotype, h.hasStereotype]

theorem link? (h : m.Agrees m') : m'.link? = m.link? := by
  funext g
  rw [Model.link?, Model.link?, h.class?]

theorem unlinked (h : m.Agrees m') : m'.unlinked = m.unlinked := by
  rw [Model.unlinked, Model.unlinked, h.generalizations, h.link?]

theorem stereotypeName? (h : m.Agrees m') : m'.stereotypeName? = m.stereotypeName? := by
  funext c
  rw [Model.stereotypeName?, Model.stereotypeName?, h.get?, Graph.resolveFirst?_congr h.get?]

theorem walkFrom (h : m.Agrees m') : m'.walkFrom = m.walkFrom := by
  have below : m'.specials = m.specials := by
    funext id
    rw [specials, specials, h.hierarchy]
  funext root
  rw [Model.walkFrom, Model.walkFrom, below, h.classes]

theorem propagate (h : m.Agrees m') : m'.propagate = m.propagate := by
  have visit : Propagation.visit m' = Propagation.visit m := by
    funext p c
    simp only [Propagation.visit, h.stereotypeName?, h.walkFrom]
  funext j
  rw [Model.propagate, Model.propagate, h.classes, h.stereotypes, visit]

theorem endsOf (h : m.Agrees m') : m'.endsOf = m.endsOf := by
  have ofProperty : End.ofProperty m'.graph = End.ofProperty m.graph := by
    funext p owner type
    simp only [End.ofProperty, Graph.read_congr h.get?]
  have memberEnd : m'.memberEnd = m.memberEnd := by
    funext scope a member
    simp only [Model.memberEnd, h.property?, Graph.lookupClass_congr h.get?, ofProperty]
  funext scope a
  rw [Model.endsOf, Model.endsOf, h.get?, memberEnd]

theorem attributesOf (h : m.Agrees m') : m'.attributesOf = m.attributesOf := by
  have enumerationOf : m'.enumerationOf? = m.enumerationOf? := by
    funext p
    rw [enumerationOf?, enumerationOf?, h.enumeration?, h.enumerations]
  have own : m'.ownAttribute = m.ownAttribute := by
    funext c p
    simp only [ownAttribute, enumerationOf]
  funext policy c
  rw [Model.attributesOf, Model.attributesOf, h.property?, own]

/-! Passes over a model keep the agreement. -/

theorem linkClasses (h : m.Agrees m') : m.linkClasses.Agrees m'.linkClasses :=
  { h with
    hierarchy := by
      rw [hierarchy_linkClasses, hierarchy_linkClasses, links, links, h.hierarchy,
        h.generalizations, h.link?] }

theorem withStereotypes (h : m.Agrees m') (stereotypes : List (String × String)) :
    ({ m with stereotypes } : Model).Agrees { m' with stereotypes } :=
  { h with stereotypes := rfl }

theorem listLiterals (h : m.Agrees m') : m.listLiterals.Agrees m'.listLiterals := by
  have literal : m'.literal? = m.literal? := by
    funext id
    rw [literal?, literal?, h.property?, h.get?]
  refine { h with enumerations := ?_ }
  change m'.enumerations.map _ = m.enumerations.map _
  rw [h.enumerations, literal]

end Agrees

end Model

end ModelCompiler
