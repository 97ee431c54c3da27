import Mathlib.Data.List.Nodup
import ModelCompiler.Model.Classify
import ModelCompiler.Model.Hierarchy

/-!
# Identifiers in a model

What an element is keeps the identifier of the element, so within each kind identifiers are
distinct, a look-up by identifier finds what the element with the identifier is, and a link is
determined by the identifiers of its two classes.
-/

namespace ModelCompiler

/-- The identifier of what an element is. -/
def Entity.id : Entity → String
  | .structural c => c.id
  | .enumeration e => e.id
  | .generalization g => g.id
  | .association a => a.id
  | .property p => p.id
  | .operation o => o.id
  | .extension x => x.id

theorem Entity.id_of_ofElement? {cv : Conventions} {g : Graph} {e : Element} {x : Entity}
    (h : Entity.ofElement? cv g e = some x) : x.id = e.id := by
  unfold Entity.ofElement? at h
  split at h
  · split at h
    · cases h
    · split at h <;> cases h <;> rfl
  all_goals cases h <;> rfl

/-- The type of the elements that are of a kind. -/
def Entity.type : Entity → String
  | .structural _ | .enumeration _ => "Class"
  | .generalization _ => "Generalization"
  | .association _ => "Association"
  | .property _ => "Property"
  | .operation _ => "Operation"
  | .extension _ => "Extension"

theorem Entity.type_of_ofElement? {cv : Conventions} {g : Graph} {e : Element} {x : Entity}
    (h : Entity.ofElement? cv g e = some x) : e.type = x.type := by
  unfold ofElement? at h
  split at h
  · split at h
    · cases h
    · split at h <;> cases h <;> assumption
  all_goals cases h <;> assumption

/-- What is picked comes from elements of one type if it is picked from what these are. -/
theorem Entity.type_of_pick {α : Type} {pick : Entity → Option α} {type : String}
    {cv : Conventions} {g : Graph} (typed : ∀ x a, pick x = some a → x.type = type) {e : Element}
    {a : α} (h : (Entity.ofElement? cv g e).bind pick = some a) : e.type = type := by
  obtain ⟨x, hx, hxa⟩ := Option.bind_eq_some_iff.1 h
  rw [type_of_ofElement? hx, typed x a hxa]

/-- If what is picked comes from elements of one type only, the type tells what is picked. -/
theorem Entity.pick_ofElement? {α : Type} {pick : Entity → Option α} {type : String}
    {cv : Conventions} {g : Graph} {read : Element → α}
    (typed : ∀ x a, pick x = some a → x.type = type)
    (reads : ∀ e, e.type = type → (Entity.ofElement? cv g e).bind pick = some (read e))
    (e : Element) :
    (Entity.ofElement? cv g e).bind pick = if e.type = type then some (read e) else none := by
  split
  · rename_i isType
    exact reads e isType
  · rename_i other
    exact Option.eq_none_iff_forall_not_mem.2 fun a ha => other (type_of_pick typed ha)

theorem Entity.property?_ofElement? (cv : Conventions) (g : Graph) (e : Element) :
    (Entity.ofElement? cv g e).bind Entity.property? =
      if e.type = "Property" then some (Property.ofElement g e) else none := by
  refine pick_ofElement? (fun x p h => ?_) (fun e h => ?_) e
  · cases x <;> cases h
    rfl
  · simp [ofElement?, h, property?]

namespace Entity

variable {x : Entity}

theorem id_of_class? {c : Class} (h : x.class? = some c) : c.id = x.id := by
  cases x <;> cases h
  rfl

theorem id_of_property? {p : Property} (h : x.property? = some p) : p.id = x.id := by
  cases x <;> cases h
  rfl

theorem id_of_operation? {o : Operation} (h : x.operation? = some o) : o.id = x.id := by
  cases x <;> cases h
  rfl

theorem type_of_generalization? {y : Generalization} (h : x.generalization? = some y) :
    x.type = "Generalization" := by
  cases x <;> cases h
  rfl

theorem type_of_association? {a : Association} (h : x.association? = some a) :
    x.type = "Association" := by
  cases x <;> cases h
  rfl

end Entity

/-- What has a key of its own is found under its key. -/
theorem find?_key_eq_some {α : Type} {key : α → String} {l : List α} (hn : (l.map key).Nodup)
    {k : String} {a : α} : l.find? (key · == k) = some a ↔ a ∈ l ∧ key a = k := by
  constructor
  · intro h
    exact ⟨List.mem_of_find?_eq_some h, by simpa using List.find?_some h⟩
  · rintro ⟨ha, rfl⟩
    cases hf : l.find? (key · == key a) with
    | none => exact absurd (beq_self_eq_true (key a)) (List.find?_eq_none.1 hf a ha)
    | some b =>
      have same : key b = key a := by simpa using List.find?_some hf
      rw [List.inj_on_of_nodup_map hn (List.mem_of_find?_eq_some hf) ha same]

/-- What is found under a key does not depend on the order. -/
theorem find?_key_perm {α : Type} {key : α → String} {l l' : List α} (hn : (l.map key).Nodup)
    (hp : l.Perm l') (k : String) : l'.find? (key · == k) = l.find? (key · == k) := by
  have hn' : (l'.map key).Nodup := (hp.map key).nodup_iff.1 hn
  ext a
  rw [find?_key_eq_some hn, find?_key_eq_some hn', hp.mem_iff]

/-- An element of a graph is found under its identifier. -/
theorem Graph.get?_eq_some {g : Graph} {id : String} {e : Element} :
    g.get? id = some e ↔ e ∈ g.elements ∧ e.id = id := find?_key_eq_some g.ids_nodup

/-- What is picked from a list has the keys of what it is picked from. -/
theorem map_filterMap_eq_map_filter {α β γ : Type} {pick : α → Option β} (key : α → γ)
    (key' : β → γ) (h : ∀ a b, pick a = some b → key' b = key a) (l : List α) :
    (l.filterMap pick).map key' = (l.filter fun a => (pick a).isSome).map key := by
  induction l with
  | nil => rfl
  | cons a l ih =>
    cases hp : pick a with
    | none => rw [List.filterMap_cons_none hp, List.filter_cons_of_neg (by simp [hp]), ih]
    | some b =>
      rw [List.filterMap_cons_some hp, List.filter_cons_of_pos (by simp [hp]), List.map_cons,
        List.map_cons, h a b hp, ih]

/-- What is picked from a list in order keeps the order of its keys. -/
theorem map_filterMap_sublist {α β γ : Type} {pick : α → Option β} (key : α → γ) (key' : β → γ)
    (h : ∀ a b, pick a = some b → key' b = key a) (l : List α) :
    ((l.filterMap pick).map key').Sublist (l.map key) := by
  rw [map_filterMap_eq_map_filter key key' h]
  exact List.filter_sublist.map key

namespace Model

variable {cv : Conventions} {g : Graph}

/-- Within each kind of what elements are, identifiers are distinct. -/
theorem ids_view_nodup {α : Type} {pick : Entity → Option α} {key : α → String}
    (hk : ∀ x a, pick x = some a → key a = x.id) (cv : Conventions) (g : Graph) :
    (((g.elements.filterMap (Entity.ofElement? cv g)).filterMap pick).map key).Nodup := by
  rw [List.filterMap_filterMap]
  refine (map_filterMap_sublist Element.id key ?_ g.elements).nodup g.ids_nodup
  intro e a h
  obtain ⟨x, hx, ha⟩ := Option.bind_eq_some_iff.1 h
  rw [hk x a ha, Entity.id_of_ofElement? hx]

/-- If a test of the elements tells which of them are of a kind, these make up the kind. -/
theorem view_eq_map_filter {α : Type} {pick : Entity → Option α} {p : Element → Prop}
    [DecidablePred p] {f : Element → α}
    (h : ∀ e, (Entity.ofElement? cv g e).bind pick = if p e then some (f e) else none) :
    (g.elements.filterMap (Entity.ofElement? cv g)).filterMap pick =
      (g.elements.filter p).map f := by
  rw [List.filterMap_filterMap, ← List.filterMap_eq_map, List.filterMap_filter]
  refine List.filterMap_congr fun e _ => ?_
  rw [h]
  simp only [decide_eq_true_eq, Function.comp_def]

/-- What is found under an identifier in a kind is what the element with the identifier is. -/
theorem find?_view_eq_some {α : Type} {pick : Entity → Option α} {key : α → String}
    {p : Element → Prop} [DecidablePred p] {f : Element → α}
    (hk : ∀ x a, pick x = some a → key a = x.id)
    (h : ∀ e, (Entity.ofElement? cv g e).bind pick = if p e then some (f e) else none)
    {id : String} {a : α} :
    ((g.elements.filterMap (Entity.ofElement? cv g)).filterMap pick).find? (key · == id) = some a ↔
      ∃ e, g.get? id = some e ∧ p e ∧ f e = a := by
  have keyed {e : Element} (he : p e) : key (f e) = e.id := by
    have read := h e
    rw [if_pos he] at read
    obtain ⟨x, hx, hxa⟩ := Option.bind_eq_some_iff.1 read
    rw [hk x _ hxa, Entity.id_of_ofElement? hx]
  rw [find?_key_eq_some (ids_view_nodup hk cv g), view_eq_map_filter h]
  simp only [List.mem_map, List.mem_filter, decide_eq_true_eq, Graph.get?_eq_some]
  constructor
  · rintro ⟨⟨e, ⟨he, hp⟩, rfl⟩, hid⟩
    exact ⟨e, ⟨he, (keyed hp).symm.trans hid⟩, hp, rfl⟩
  · rintro ⟨e, ⟨he, hid⟩, hp, rfl⟩
    exact ⟨⟨e, ⟨he, hp⟩, rfl⟩, (keyed hp).trans hid⟩

theorem ids_classes_ofGraph_nodup (cv : Conventions) (g : Graph) :
    ((Model.ofGraph cv g).classes.map (·.id)).Nodup :=
  ids_view_nodup (fun _ _ => Entity.id_of_class?) cv g

theorem exists_element_of_mem_classes {c : Class} (hc : c ∈ (Model.ofGraph cv g).classes) :
    ∃ e ∈ g.elements, e.id = c.id := by
  obtain ⟨x, hx, hxc⟩ := List.mem_filterMap.1 hc
  obtain ⟨e, he, hex⟩ := List.mem_filterMap.1 hx
  exact ⟨e, he, by rw [Entity.id_of_class? hxc, Entity.id_of_ofElement? hex]⟩

/-- What is found as a property is what the element with its identifier is. -/
theorem property?_ofGraph_eq_some {e : Element} {p : Property} (he : e ∈ g.elements) :
    (Model.ofGraph cv g).property? e.id = some p ↔
      e.type = "Property" ∧ Property.ofElement g e = p := by
  have found : g.get? e.id = some e := Graph.get?_eq_some.2 ⟨he, rfl⟩
  refine (find?_view_eq_some (fun _ _ => Entity.id_of_property?)
    (Entity.property?_ofElement? cv g)).trans ?_
  simp [found]

/-- The property with the identifier of an element is read from that element. -/
theorem property?_ofGraph {e : Element} {p : Property} (he : e ∈ g.elements)
    (hp : (Model.ofGraph cv g).property? e.id = some p) : p = Property.ofElement g e :=
  ((property?_ofGraph_eq_some he).1 hp).2.symm

/-- Classes of a graph with one identifier are one class. -/
theorem eq_of_id_eq {c d : Class} (hc : c ∈ (Model.ofGraph cv g).classes)
    (hd : d ∈ (Model.ofGraph cv g).classes) (h : c.id = d.id) : c = d :=
  List.inj_on_of_nodup_map (ids_classes_ofGraph_nodup cv g) hc hd h

theorem mem_classes_of_class? {m : Model} {id : String} {c : Class} (h : m.class? id = some c) :
    c ∈ m.classes := List.mem_of_find?_eq_some h

end Model

end ModelCompiler
