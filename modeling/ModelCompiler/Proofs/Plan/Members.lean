import ModelCompiler.Proofs.Model.Identity
import ModelCompiler.Proofs.Plan.Frame
import ModelCompiler.Proofs.Plan.Roles

/-!
# Which ends become members of derived unions

The members of a union are listed as ends, and equal ends cannot be told apart there.  Here they
keep their numbers among all ends of the plan, so that each can be followed to the list in which its
role puts it.  An end that has become an attribute is no member of any union, since its type is not
generated.
-/

namespace ModelCompiler

namespace Plan

/-- The ends that subset a union of a name, with their numbers, once for each time that they do. -/
def membersOf (p : Plan) (union : String) : List (End × Nat) :=
  p.ends.zipIdx.flatMap fun x =>
    if p.classes.any (·.id == x.1.typeId) then (x.1.subsets.filter (· == union)).map fun _ => x
    else []

theorem getElem?_of_mem_membersOf {p : Plan} {union : String} {m : End × Nat}
    (h : m ∈ p.membersOf union) : p.ends[m.2]? = some m.1 := by
  obtain ⟨x, hx, hm⟩ := List.mem_flatMap.1 h
  split at hm
  · obtain ⟨-, -, rfl⟩ := List.mem_map.1 hm
    exact List.mem_zipIdx_iff_getElem?.1 hx
  · cases hm

theorem filter_subsettings (retained : List Class) (ends : List End) (union : String) :
    ((subsettings retained ends).filter (·.union == union)).map (·.member) =
      ends.flatMap fun e =>
        if retained.any (·.id == e.typeId) then (e.subsets.filter (· == union)).map fun _ => e
        else [] := by
  rw [subsettings, flatMap_filter, List.filter_flatMap, List.map_flatMap]
  refine List.flatMap_congr fun e _ => ?_
  split
  · rw [List.filter_map, List.map_map]
    rfl
  · rfl

/-- The ends that subset a union are those that it gets as members. -/
theorem map_membersOf (p : Plan) (union : String) :
    (p.membersOf union).map (·.1) =
      ((subsettings p.classes p.ends).filter (·.union == union)).map (·.member) := by
  rw [filter_subsettings, membersOf, List.map_flatMap]
  conv_rhs => rw [← List.zipIdx_map_fst 0 p.ends, List.flatMap_map]
  congr 1
  funext x
  split
  · rw [List.map_map]
    rfl
  · rfl

/-! ## Roles and places -/

/-- The ends of a plan in their roles, as the lists of the plan have them. -/
structure Sorted (p : Plan) : Prop where
  associations : p.associations.map (·.1) = p.ends.filter (·.role = .plain)
  redefinitions : p.redefinitions = p.ends.filter (·.role = .redefinition)
  derivedUnions : p.derivedUnions.map (·.toEnd) = p.ends.filter (·.role = .derivedUnion)
  members : ∀ u ∈ p.derivedUnions, u.members = (p.membersOf u.toEnd.name).map (·.1)

/-- The number of ends in a role before the end with a number. -/
def rank (p : Plan) (role : Role) (i : Nat) : Nat :=
  ((p.ends.take i).filter (·.role = role)).length

/-- The rank of an end is its index in the list of its role. -/
theorem getElem?_filter_rank {p : Plan} {i : Nat} {e : End} (h : p.ends[i]? = some e) :
    (p.ends.filter (·.role = e.role))[p.rank e.role i]? = some e := by
  obtain ⟨hi, he⟩ := List.getElem?_eq_some_iff.1 h
  have split : p.ends.take i ++ e :: p.ends.drop (i + 1) = p.ends := by
    rw [← he, ← List.drop_eq_getElem_cons hi, List.take_append_drop]
  have kept : p.ends.filter (·.role = e.role) = (p.ends.take i).filter (·.role = e.role) ++
      e :: (p.ends.drop (i + 1)).filter (·.role = e.role) := by
    conv_lhs => rw [← split]
    rw [List.filter_append, List.filter_cons_of_pos (by simp)]
  rw [kept, rank, List.getElem?_append_right (Nat.le_refl _), Nat.sub_self]
  rfl

end Plan

theorem sorted_of_resolve {g : Graph} {policy : Policy} {cv : Conventions}
    (h : (resolve g policy cv).fault? = none) : (resolve g policy cv).plan.Sorted := by
  obtain ⟨q, done, hp⟩ := resolve_of_no_fault h
  have hq := Plan.gains_addAssociations (p := g.begun policy cv) done
  have distinct := g.distinct_associated policy cv
  rw [done] at distinct
  rw [hp]
  refine ⟨hq.heads_eq_filter, hq.redefinitions_eq_filter, ?_, ?_⟩
  · exact (Plan.toEnd_derivedUnions_finish q policy).trans hq.unions_eq_filter
  · intro u hu
    change u ∈ q.collectUnions.derivedUnions at hu
    rw [q.derivedUnions_collectUnions distinct] at hu
    obtain ⟨v, hv, rfl⟩ := List.mem_map.1 hu
    have empty : v.members = [] := by
      rw [hq.derivedUnions] at hv
      obtain ⟨s, -, rfl⟩ := List.mem_map.1 hv
      rfl
    rw [DerivedUnion.gaining, empty, List.nil_append]
    exact (Plan.map_membersOf _ _).symm

/-! ## Ends that have become attributes -/

theorem End.typeId_ofProperty (g : Graph) (p : Property) (owner? : Option ClassRef)
    (type : ClassRef) : (ofProperty g p owner? type).typeId = p.typeId := by
  cases owner? <;> rfl

theorem End.property_ofProperty (g : Graph) (p : Property) (owner? : Option ClassRef)
    (type : ClassRef) : (ofProperty g p owner? type).property = p.id := by
  cases owner? <;> rfl

theorem End.type_ofProperty (g : Graph) (p : Property) (owner? : Option ClassRef)
    (type : ClassRef) : (ofProperty g p owner? type).type = type := by
  cases owner? <;> rfl

/-- A field whose first identifier is that of an element leads to this element. -/
theorem Graph.resolveFirst?_of_firstRef {g : Graph} {e target : Element} {field : String}
    (ht : target ∈ g.elements) (hid : e.firstRef field = target.id) :
    g.resolveFirst? e field = some target := by
  have named : target.id ≠ "" := g.ids_ne target ht
  rw [Element.firstRef] at hid
  rw [resolveFirst?, resolve]
  cases hr : e.refs field with
  | nil =>
    rw [hr] at hid
    exact absurd hid.symm named
  | cons id ids =>
    rw [hr] at hid
    have hid : id = target.id := hid
    rw [hid, List.filterMap_cons_some (Graph.get?_eq_some.2 ⟨ht, rfl⟩)]
    rfl

/-- A class that is found is the one in scope that the field leads to. -/
theorem exists_of_lookupClass {g : Graph} {scope : List Class} {e : Element} {field : String}
    {c : ClassRef} (h : lookupClass g scope e field = .found c) :
    c ∈ scope.map (·.toClassRef) ∧ ∃ t, g.resolveFirst? e field = some t ∧ c.id = t.id := by
  unfold lookupClass at h
  split at h
  · cases h
  · split at h
    · cases h
    · rename_i t ht
      split at h
      · cases h
      · rename_i d hd
        cases h
        exact ⟨List.mem_map_of_mem (List.mem_of_find?_eq_some hd), t, ht,
          by simpa using List.find?_some hd⟩

namespace Model

/-- A member of an association becomes the end that its property is, if its type is in scope and
its owner, unless it has none, is so too. -/
theorem memberEnd_eq_ok {m : Model} {scope : List Class} {a : Association} {member : Element}
    {e : End} (h : m.memberEnd scope a member = .ok e) :
    ∃ p type owner?, m.property? member.id = some p ∧
      lookupClass m.graph scope member "type" = .found type ∧
      (∀ o, owner? = some o → lookupClass m.graph scope member "class_" = .found o) ∧
      e = .ofProperty m.graph p owner? type := by
  unfold memberEnd at h
  split at h
  · cases h
  · rename_i p hp
    split at h
    · cases h
    · cases h
    · rename_i type ht
      split at h
      · cases h
      · cases h
        exact ⟨p, type, none, hp, ht, by simp, rfl⟩
      · rename_i o ho
        cases h
        refine ⟨p, type, some o, hp, ht, ?_, rfl⟩
        intro o' same
        cases same
        exact ho

/-- An end whose property gives the identifier of a class as its type has this class as its type. -/
theorem id_type_of_memberEnd {cv : Conventions} {g : Graph} {m : Model} (hg : m.graph = g)
    (hp : m.properties = (Model.ofGraph cv g).properties) {scope : List Class} {a : Association}
    {member : Element} (hm : member ∈ g.elements) {e : End}
    (he : m.memberEnd scope a member = .ok e) {c : Class}
    (hc : c ∈ (Model.ofGraph cv g).classes) (hid : c.id = e.typeId) : e.type.id = c.id := by
  obtain ⟨p, type, owner?, hpm, found, -, rfl⟩ := memberEnd_eq_ok he
  have known : (Model.ofGraph cv g).property? member.id = some p := by
    rw [property?, ← hp]
    exact hpm
  have read : p = Property.ofElement g member := property?_ofGraph hm known
  obtain ⟨target, ht, htc⟩ := exists_element_of_mem_classes hc
  have first : g.resolveFirst? member "type" = some target := by
    refine Graph.resolveFirst?_of_firstRef ht ?_
    rw [htc, hid, End.typeId_ofProperty, read]
    rfl
  obtain ⟨-, target', found, same⟩ := exists_of_lookupClass found
  rw [hg, first] at found
  cases found
  rw [End.type_ofProperty, same, htc]

theorem endsOf_eq_ok {m : Model} {scope : List Class} {a : Association} {ends : End × End}
    (h : m.endsOf scope a = .ok ends) :
    ∃ first ∈ m.graph.elements, ∃ second ∈ m.graph.elements,
      m.memberEnd scope a first = .ok ends.1 ∧ m.memberEnd scope a second = .ok ends.2 := by
  unfold endsOf at h
  split at h
  · rename_i first second members
    have known : ∀ x ∈ [first, second], x ∈ m.graph.elements := by
      intro x hx
      rw [← members] at hx
      obtain ⟨id, -, hid⟩ := List.mem_filterMap.1 hx
      exact (Graph.get?_eq_some.1 hid).1
    split at h
    · cases h
    · rename_i e he
      split at h
      · cases h
      · rename_i f hf
        cases h
        exact ⟨first, known first (by simp), second, known second (by simp), he, hf⟩
  · cases h

theorem mem_seats {m : Model} {stereotype : String} {policy : Policy} {a : Association} {s : Seat} :
    s ∈ m.seats stereotype policy a ↔ ∃ ends,
      m.endsOf (m.withoutMetaclasses m.classes) a = .ok ends ∧
        s ∈ m.seatsOf stereotype policy ends := by
  unfold seats
  split
  · simp [*]
  · simp [*]

section Seats

variable {m : Model} {stereotype : String} {policy : Policy} {a : Association} {s : Seat}

/-- The end in a seat is a member of the association, in its role. -/
theorem exists_member_of_mem_seats (hs : s ∈ m.seats stereotype policy a) :
    ∃ member ∈ m.graph.elements, ∃ e,
      m.memberEnd (m.withoutMetaclasses m.classes) a member = .ok e ∧
        s.head = { e with role := e.roleBy s.simple.isSome policy.derives } := by
  obtain ⟨ends, he, hs⟩ := mem_seats.1 hs
  obtain ⟨first, hf, second, hs', hef, hes⟩ := endsOf_eq_ok he
  rcases List.mem_cons.1 hs with rfl | hs
  · exact ⟨first, hf, ends.1, hef, rfl⟩
  · rcases List.mem_singleton.1 hs with rfl
    exact ⟨second, hs', ends.2, hes, rfl⟩

/-- The simple end of an association is typed by a class of scalar values, and no end is if there
is no simple end. -/
theorem hasStereotype_of_mem_seats (hs : s ∈ m.seats stereotype policy a) :
    (s.simple = some s.side → m.hasStereotype s.head.type.id stereotype) ∧
      (s.simple = none → m.hasStereotype s.head.type.id stereotype = false) := by
  obtain ⟨ends, -, hs⟩ := mem_seats.1 hs
  rcases List.mem_cons.1 hs with rfl | hs
  · cases h₁ : m.hasStereotype ends.1.type.id stereotype <;>
      cases h₂ : m.hasStereotype ends.2.type.id stereotype <;>
      simp [simpleSide?, h₁, h₂]
  · rcases List.mem_singleton.1 hs with rfl
    cases h₁ : m.hasStereotype ends.1.type.id stereotype <;>
      cases h₂ : m.hasStereotype ends.2.type.id stereotype <;>
      simp [simpleSide?, h₁, h₂]

end Seats

end Model

section Resolved

variable {g : Graph} {policy : Policy} {cv : Conventions}

theorem ends_resolve (h : (resolve g policy cv).fault? = none) :
    (resolve g policy cv).plan.ends =
      ((resolve g policy cv).plan.model.allSeats cv.simpleAttribute policy).map (·.head) := by
  obtain ⟨told, journal, q, hq, hp⟩ := resolve_gains h
  rw [hp]
  exact hq.ends_eq

theorem mem_classes_of_resolve (h : (resolve g policy cv).fault? = none) {c : Class}
    (hc : c ∈ (resolve g policy cv).plan.classes) : c ∈ (Model.ofGraph cv g).classes := by
  rw [classes_resolve h] at hc
  exact (List.mem_filter.1 (List.mem_filter.1 hc).1).1

/-- An accepted end whose property refers to a class of the plan has this class as its type. -/
theorem id_type_of_mem_allSeats (h : (resolve g policy cv).fault? = none) {s : Seat}
    (hs : s ∈ (resolve g policy cv).plan.model.allSeats cv.simpleAttribute policy) {c : Class}
    (hc : c ∈ (resolve g policy cv).plan.classes) (hid : c.id = s.head.typeId) :
    s.head.type.id = c.id := by
  obtain ⟨a, -, hs⟩ := List.mem_flatMap.1 hs
  obtain ⟨member, hm, e, he, head⟩ := Model.exists_member_of_mem_seats hs
  rw [model_resolve h] at hm he
  rw [head] at hid ⊢
  exact Model.id_type_of_memberEnd rfl rfl hm he (mem_classes_of_resolve h hc) hid

/-- An end that has become an attribute has a type that is not generated, so it is no member of a
derived union. -/
theorem not_retained_of_isAttribute (h : (resolve g policy cv).fault? = none) {s : Seat}
    (hs : s ∈ (resolve g policy cv).plan.model.allSeats cv.simpleAttribute policy)
    (ha : s.isAttribute) :
    ¬(resolve g policy cv).plan.classes.any (·.id == s.head.typeId) := by
  intro retained
  obtain ⟨c, hc, hid⟩ := List.any_eq_true.1 retained
  have same := id_type_of_mem_allSeats h hs hc (eq_of_beq hid)
  obtain ⟨a, -, hs⟩ := List.mem_flatMap.1 hs
  rw [Seat.isAttribute, decide_eq_true_iff] at ha
  have simple := (Model.hasStereotype_of_mem_seats hs).1 ha.2
  rw [same, model_resolve h] at simple
  rw [classes_resolve h] at hc
  have plain := (List.mem_filter.1 hc).2
  rw [Bool.not_eq_true'] at plain
  exact Bool.false_ne_true (plain.symm.trans simple)

end Resolved

end ModelCompiler
