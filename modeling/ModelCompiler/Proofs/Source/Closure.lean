import ModelCompiler.Proofs.Source.Omissions
import ModelCompiler.Proofs.Source.Unions

/-!
# Listed ends refer to generated classes

Ends are looked up among all classes but the metaclasses, and classes of scalar values are dropped
only later.  Still no listed end has one of these as its type: an association with such an end is
one with a scalar value, and none of its ends is listed.  Main statement: the types of listed ends
are classes of the plan, and so are their owners if every end is owned by the type across from it,
which leaves a repeated name as the only reason to leave one out.
-/

namespace ModelCompiler

/-! ## Ends in their seats -/

/-- An end that can be navigated to goes by the names of its type and of its owner. -/
structure End.IsNamed (e : End) : Prop where
  typeName_eq : e.typeName = e.type.name
  className_eq : ∀ c, e.owner = some c → e.className = c.name

theorem End.isNamed_ofProperty {g : Graph} {p : Property} {owner? : Option ClassRef}
    {type : ClassRef} (h : (ofProperty g p owner? type).navigable) :
    (ofProperty g p owner? type).IsNamed := by
  cases owner? with
  | none => exact absurd h Bool.false_ne_true
  | some o =>
    refine ⟨rfl, ?_⟩
    intro c hc
    cases hc
    rfl

/-- An end in a list of its own can be navigated to, and its association has no scalar value. -/
theorem End.of_roleBy {e : End} {simple : Bool} {derives : String → Bool}
    (h : e.roleBy simple derives ≠ .nonNavigable)
    (h' : e.roleBy simple derives ≠ .simpleAttribute) : e.navigable ∧ simple = false := by
  cases hn : e.navigable with
  | false => exact absurd (by simp [roleBy, ownRole?, hn]) h
  | true =>
    cases simple with
    | false => exact ⟨rfl, rfl⟩
    | true => exact absurd (by simp [roleBy, ownRole?, hn]) h'

namespace Model

variable {m : Model} {stereotype : String} {policy : Policy} {s : Seat}

/-- The end across has a seat as well. -/
theorem exists_across (hs : s ∈ m.allSeats stereotype policy) :
    ∃ t ∈ m.allSeats stereotype policy,
      t.head = s.tail ∧ t.tail = s.head ∧ t.simple = s.simple := by
  obtain ⟨a, ha, hs⟩ := List.mem_flatMap.1 hs
  obtain ⟨ends, he, hs⟩ := mem_seats.1 hs
  have seated (t : Seat) (ht : t ∈ m.seatsOf stereotype policy ends) :
      t ∈ m.allSeats stereotype policy :=
    List.mem_flatMap.2 ⟨a, ha, mem_seats.2 ⟨ends, he, ht⟩⟩
  rcases List.mem_cons.1 hs with rfl | hs
  · exact ⟨_, seated _ (List.mem_cons_of_mem _ (List.mem_singleton_self _)), rfl, rfl, rfl⟩
  · rcases List.mem_singleton.1 hs with rfl
    exact ⟨_, seated _ List.mem_cons_self, rfl, rfl, rfl⟩

/-- Every end that can be navigated to is owned by the class that types the end across from it. -/
def OwnsAcross (m : Model) (stereotype : String) (policy : Policy) : Prop :=
  ∀ s ∈ m.allSeats stereotype policy, s.head.navigable → s.head.owner = some s.tail.type

theorem isNamed_of_mem_allSeats (hs : s ∈ m.allSeats stereotype policy) (h : s.head.navigable) :
    s.head.IsNamed := by
  obtain ⟨a, -, hs⟩ := List.mem_flatMap.1 hs
  obtain ⟨member, -, e, he, head⟩ := exists_member_of_mem_seats hs
  obtain ⟨p, type, owner?, -, -, -, rfl⟩ := memberEnd_eq_ok he
  rw [head] at h ⊢
  obtain ⟨typeName, className⟩ := End.isNamed_ofProperty h
  exact ⟨typeName, className⟩

theorem type_mem_scope (hs : s ∈ m.allSeats stereotype policy) :
    s.head.type ∈ (m.withoutMetaclasses m.classes).map (·.toClassRef) := by
  obtain ⟨a, -, hs⟩ := List.mem_flatMap.1 hs
  obtain ⟨member, -, e, he, head⟩ := exists_member_of_mem_seats hs
  obtain ⟨p, type, owner?, -, found, -, rfl⟩ := memberEnd_eq_ok he
  rw [head]
  dsimp only
  rw [End.type_ofProperty]
  exact (exists_of_lookupClass found).1

/-- The types of an association without a scalar value are retained. -/
theorem type_mem_retained (hs : s ∈ m.allSeats stereotype policy) (h : s.simple = none) :
    s.head.type ∈
      (m.withoutStereotype stereotype (m.withoutMetaclasses m.classes)).map (·.toClassRef) := by
  obtain ⟨c, hc, same⟩ := List.mem_map.1 (type_mem_scope hs)
  obtain ⟨a, -, hs⟩ := List.mem_flatMap.1 hs
  have plain := (hasStereotype_of_mem_seats hs).2 h
  rw [← same] at plain
  refine List.mem_map.2 ⟨c, List.mem_filter.2 ⟨hc, ?_⟩, same⟩
  rw [plain, Bool.not_false]

theorem of_role_of_mem_allSeats (hs : s ∈ m.allSeats stereotype policy)
    (h : s.head.role ≠ .nonNavigable) (h' : s.head.role ≠ .simpleAttribute) :
    s.head.navigable ∧ s.simple = none := by
  obtain ⟨a, -, hs⟩ := List.mem_flatMap.1 hs
  obtain ⟨member, -, e, -, head⟩ := exists_member_of_mem_seats hs
  rw [head] at h h' ⊢
  obtain ⟨navigable, plain⟩ := End.of_roleBy h h'
  exact ⟨navigable, by simpa using plain⟩

end Model

/-! ## Listed ends -/

namespace Plan

def classRefs (p : Plan) : List ClassRef := p.classes.map (·.toClassRef)

/-- The ends that a plan lists under their roles. -/
def listedEnds (p : Plan) : List End :=
  p.associations.map (·.1) ++ p.redefinitions ++ p.derivedUnions.map (·.toEnd)

/-- Whatever is declared for an end is declared for a listed one. -/
theorem mem_listedEnds_of_end? {p : Plan} {d : Source.Descriptor}
    (hd : d ∈ (Source.Recording.ofCalls p.calls).descriptors) {e : End} (he : d.end? = some e) :
    e ∈ p.listedEnds := by
  rw [descriptors_calls] at hd
  simp only [List.mem_append, List.mem_map] at hd
  simp only [listedEnds, List.mem_append, List.mem_map]
  rcases hd with ((⟨a, -, rfl⟩ | ⟨a, ha, rfl⟩) | ⟨_, ha, rfl⟩) | ⟨u, hu, rfl⟩
  · cases he
  · cases he
    exact .inl (.inl ⟨a, ha, rfl⟩)
  · cases he
    exact .inl (.inr ha)
  · cases he
    exact .inr ⟨u, hu, rfl⟩

theorem name_mem_recorded {p : Plan} {c : ClassRef} (hc : c ∈ p.classRefs) :
    c.name ∈ (Source.Recording.ofCalls p.calls).classes.map (·.name) := by
  obtain ⟨d, hd, rfl⟩ := List.mem_map.1 hc
  rw [Source.Recording.ofCalls_calls, List.map_map]
  exact List.mem_map.2 ⟨d, hd, rfl⟩

/-- An end that is given to a union has a retained type. -/
theorem exists_class_of_mem_membersOf {p : Plan} {union : String} {m : End × Nat}
    (h : m ∈ p.membersOf union) : ∃ c ∈ p.classes, c.id = m.1.typeId := by
  obtain ⟨x, -, hm⟩ := List.mem_flatMap.1 h
  split at hm
  · rename_i retained
    obtain ⟨-, -, rfl⟩ := List.mem_map.1 hm
    simpa using retained
  · cases hm

end Plan

section Resolved

variable {g : Graph} {policy : Policy} {cv : Conventions}

theorem associations_resolve (h : (resolve g policy cv).fault? = none) :
    (resolve g policy cv).plan.associations =
      (((resolve g policy cv).plan.model.allSeats cv.simpleAttribute policy).filter
        (·.head.role = .plain)).map fun s => (s.head, s.tail) := by
  obtain ⟨told, journal, q, hq, hp⟩ := resolve_gains h
  rw [hp]
  exact hq.associations_eq

/-- The types of an association without a scalar value are classes of the plan. -/
theorem type_mem_classRefs (h : (resolve g policy cv).fault? = none) {s : Seat}
    (hs : s ∈ (resolve g policy cv).plan.model.allSeats cv.simpleAttribute policy)
    (plain : s.simple = none) : s.head.type ∈ (resolve g policy cv).plan.classRefs := by
  have retained := Model.type_mem_retained hs plain
  rw [model_resolve h] at retained
  rw [Plan.classRefs, classes_resolve h]
  exact retained

/-- A listed end sits at an association without a scalar value. -/
theorem exists_seat_of_mem_listedEnds (h : (resolve g policy cv).fault? = none) {e : End}
    (he : e ∈ (resolve g policy cv).plan.listedEnds) :
    ∃ s ∈ (resolve g policy cv).plan.model.allSeats cv.simpleAttribute policy,
      s.head = e ∧ e.navigable ∧ s.simple = none := by
  have sorted := sorted_of_resolve h
  have placed : e ∈ (resolve g policy cv).plan.ends ∧
      (e.role = .plain ∨ e.role = .redefinition ∨ e.role = .derivedUnion) := by
    rw [Plan.listedEnds, sorted.associations, sorted.redefinitions, sorted.derivedUnions] at he
    simp only [List.mem_append, List.mem_filter, decide_eq_true_eq] at he
    tauto
  obtain ⟨he, role⟩ := placed
  rw [ends_resolve h] at he
  obtain ⟨s, hs, rfl⟩ := List.mem_map.1 he
  have listed : s.head.role ≠ .nonNavigable ∧ s.head.role ≠ .simpleAttribute := by
    rcases role with role | role | role <;> rw [role] <;> decide
  exact ⟨s, hs, rfl, Model.of_role_of_mem_allSeats hs listed.1 listed.2⟩

/-- So does the end across from a listed one. -/
theorem exists_seat_across (h : (resolve g policy cv).fault? = none) {a : End × End}
    (ha : a ∈ (resolve g policy cv).plan.associations) :
    ∃ s ∈ (resolve g policy cv).plan.model.allSeats cv.simpleAttribute policy,
      s.head = a.2 ∧ s.simple = none := by
  rw [associations_resolve h] at ha
  obtain ⟨s, hs, rfl⟩ := List.mem_map.1 ha
  obtain ⟨hs, role⟩ := List.mem_filter.1 hs
  have role : s.head.role = .plain := of_decide_eq_true role
  have plain := (Model.of_role_of_mem_allSeats hs (by rw [role]; decide) (by rw [role]; decide)).2
  obtain ⟨t, ht, head, -, simple⟩ := Model.exists_across hs
  exact ⟨t, ht, head, simple.trans plain⟩

/-- The type of an end that is given to a union is a class of the plan, even if its association has
a scalar value. -/
theorem type_mem_classRefs_of_mem_members (h : (resolve g policy cv).fault? = none)
    {u : DerivedUnion} (hu : u ∈ (resolve g policy cv).plan.derivedUnions) {e : End}
    (he : e ∈ u.members) : e.type ∈ (resolve g policy cv).plan.classRefs := by
  rw [(sorted_of_resolve h).members u hu] at he
  obtain ⟨x, hx, rfl⟩ := List.mem_map.1 he
  obtain ⟨c, hc, hid⟩ := Plan.exists_class_of_mem_membersOf hx
  have listed := List.mem_of_getElem? (Plan.getElem?_of_mem_membersOf hx)
  rw [ends_resolve h] at listed
  obtain ⟨s, hs, head⟩ := List.mem_map.1 listed
  rw [← head] at hid ⊢
  have typeId := id_type_of_mem_allSeats h hs hc hid
  have inScope := Model.type_mem_scope hs
  rw [model_resolve h] at inScope
  obtain ⟨d, hd, same⟩ := List.mem_map.1 inScope
  -- the end was looked up in scope, and there only one class has the identifier
  have one : d = c := by
    refine Model.eq_of_id_eq (List.mem_filter.1 hd).1 (mem_classes_of_resolve h hc) ?_
    rw [← typeId, ← same]
  rw [← same, one]
  exact List.mem_map.2 ⟨c, hc, rfl⟩

/-- The owner of an end is a class of the plan if it is the type of the end across from it. -/
theorem owner_mem_classRefs (h : (resolve g policy cv).fault? = none)
    (owns : (resolve g policy cv).plan.model.OwnsAcross cv.simpleAttribute policy) {s : Seat}
    (hs : s ∈ (resolve g policy cv).plan.model.allSeats cv.simpleAttribute policy)
    (navigable : s.head.navigable) (plain : s.simple = none) :
    ∃ c ∈ (resolve g policy cv).plan.classRefs, s.head.owner = some c := by
  obtain ⟨t, ht, head, -, simple⟩ := Model.exists_across hs
  -- both ends sit at one association, so the type across is retained as well
  have typed := type_mem_classRefs h ht (simple.trans plain)
  rw [head] at typed
  exact ⟨s.tail.type, typed, owns s hs navigable⟩

/-- What is declared for an end has a type that is recorded. -/
theorem typeName_recorded (h : (resolve g policy cv).fault? = none) {d : Source.Descriptor}
    (hd : d ∈ (Source.Recording.ofCalls (resolve g policy cv).plan.calls).descriptors) {e : End}
    (he : d.end? = some e) : e.typeName ∈
      (Source.Recording.ofCalls (resolve g policy cv).plan.calls).classes.map (·.name) := by
  obtain ⟨s, hs, rfl, navigable, plain⟩ :=
    exists_seat_of_mem_listedEnds h (Plan.mem_listedEnds_of_end? hd he)
  rw [(Model.isNamed_of_mem_allSeats hs navigable).typeName_eq]
  exact Plan.name_mem_recorded (type_mem_classRefs h hs plain)

/-- What is declared for an end is admitted if the end is owned by the type across from it. -/
theorem isAdmitted_of_ownsAcross (h : (resolve g policy cv).fault? = none)
    (owns : (resolve g policy cv).plan.model.OwnsAcross cv.simpleAttribute policy)
    {d : Source.Descriptor}
    (hd : d ∈ (Source.Recording.ofCalls (resolve g policy cv).plan.calls).descriptors)
    (he : d.end?.isSome) : d.isAdmitted
      ((Source.Recording.ofCalls (resolve g policy cv).plan.calls).classes.map (·.name)) := by
  obtain ⟨e, he⟩ := Option.isSome_iff_exists.1 he
  obtain ⟨s, hs, rfl, navigable, plain⟩ :=
    exists_seat_of_mem_listedEnds h (Plan.mem_listedEnds_of_end? hd he)
  obtain ⟨c, hc, owner⟩ := owner_mem_classRefs h owns hs navigable plain
  have className := (Model.isNamed_of_mem_allSeats hs navigable).className_eq c owner
  refine Source.Descriptor.isAdmitted_iff.2 ⟨?_, fun e' he' => typeName_recorded h hd he'⟩
  rw [← (Source.Descriptor.className_of_end? he).1, className]
  exact Plan.name_mem_recorded hc

end Resolved

namespace Source

/-- Ends that a plan lists have types that are generated, and the file for the plan leaves none out
for its type. If every end that can be navigated to is owned by the type across from it, the owners
of listed ends are generated too, and what is recorded for an end is declared unless its qualified
name is declared already. -/
theorem listedEnds_generated {g : Graph} {policy : Policy} {cv : Conventions}
    (resolved : (resolve g policy cv).fault? = none) :
    let p := (resolve g policy cv).plan
    let r := Recording.ofCalls p.calls
    (∀ e ∈ p.listedEnds, e.type ∈ p.classRefs) ∧
    (∀ a ∈ p.associations, a.2.type ∈ p.classRefs) ∧
    (∀ u ∈ p.derivedUnions, ∀ e ∈ u.members, e.type ∈ p.classRefs) ∧
    (∀ t header f, assemble t header r = .ok f →
      f.properties = r.rendered.map (·.1.statement f.scope) ∧
      f.omissions = r.descriptors.zipIdx.filterMap r.omission? ++
        r.unions.flatMap (missingMembers r.names) ++
        r.operations.filterMap (missingOperation? f.scope) ∧
      ∀ qualified typeName, .noType qualified typeName ∉ f.omissions) ∧
    (p.model.OwnsAcross cv.simpleAttribute policy →
      (∀ e ∈ p.listedEnds, ∃ c ∈ p.classRefs, e.owner = some c) ∧
      (∀ a ∈ p.associations, a.2.navigable → ∃ c ∈ p.classRefs, a.2.owner = some c) ∧
      ∀ x ∈ r.descriptors.zipIdx, x.1.end?.isSome →
        r.omission? x = if x ∈ r.rendered then none else some (.repeated x.1.qualified)) := by
  intro p r
  refine ⟨?listed, ?across, ?members, ?files, fun owns => ⟨?owners, ?acrossOwners, ?reasons⟩⟩
  case listed =>
    intro e he
    obtain ⟨s, hs, rfl, -, plain⟩ := exists_seat_of_mem_listedEnds resolved he
    exact type_mem_classRefs resolved hs plain
  case across =>
    intro a ha
    obtain ⟨s, hs, head, plain⟩ := exists_seat_across resolved ha
    rw [← head]
    exact type_mem_classRefs resolved hs plain
  case members =>
    intro u hu e he
    exact type_mem_classRefs_of_mem_members resolved hu he
  case files =>
    intro t header f hf
    obtain ⟨classes, h⟩ := assembled_of_assemble hf
    exact ⟨h.properties_eq, h.omissions_eq,
      h.noType_not_mem_omissions fun d hd e he => typeName_recorded resolved hd he⟩
  case owners =>
    intro e he
    obtain ⟨s, hs, rfl, navigable, plain⟩ := exists_seat_of_mem_listedEnds resolved he
    exact owner_mem_classRefs resolved owns hs navigable plain
  case acrossOwners =>
    intro a ha navigable
    obtain ⟨s, hs, head, plain⟩ := exists_seat_across resolved ha
    rw [← head] at navigable ⊢
    exact owner_mem_classRefs resolved owns hs navigable plain
  case reasons =>
    intro x hx typed
    exact Recording.omission?_of_isAdmitted hx
      (isAdmitted_of_ownsAcross resolved owns (List.fst_mem_of_mem_zipIdx hx) typed)

/-- A shelf whose end has the name of an attribute. -/
def tallyShelf : Graph where
  elements :=
    [⟨"shelf", "Class", [("name", .scalar "Shelf"), ("ownedAttribute", .refList ["tally"])]⟩,
     ⟨"tally", "Property", [("name", .scalar "books")]⟩,
     ⟨"book", "Class", [("name", .scalar "Book")]⟩,
     ⟨"books", "Property",
       [("name", .scalar "books"), ("class_", .ref "shelf"), ("type", .ref "book")]⟩,
     ⟨"place", "Property",
       [("name", .scalar "place"), ("class_", .ref "book"), ("type", .ref "shelf")]⟩,
     ⟨"holding", "Association", [("memberEnd", .refList ["books", "place"])]⟩]
  ids_nodup := by decide
  ids_ne := by decide

theorem listedEnds_generated_tallyShelf :
    ∃ f, (resolve tallyShelf .none {}).fault? = none ∧
      assemble {} "" (Recording.ofCalls (resolve tallyShelf .none {}).plan.calls) = .ok f ∧
      f.omissions = [.repeated "Shelf.books"] ∧
      (∀ qualified typeName, .noType qualified typeName ∉ f.omissions) ∧
      (resolve tallyShelf .none {}).plan.model.OwnsAcross "SimpleAttribute" .none ∧
      ∀ e ∈ (resolve tallyShelf .none {}).plan.listedEnds,
        ∃ c ∈ (resolve tallyShelf .none {}).plan.classRefs, e.owner = some c := by
  let p := (resolve tallyShelf .none {}).plan
  let r := Recording.ofCalls p.calls
  have resolved : (resolve tallyShelf .none {}).fault? = none := by decide +kernel
  have recorded : r.classes = [⟨⟨"shelf", "Shelf"⟩, []⟩, ⟨⟨"book", "Book"⟩, []⟩] ∧
      r.enumerations = [] := by decide +kernel
  have ordered : classOrder r.classes = .ok [0, 1] := by
    rw [recorded.1]
    decide +kernel
  have hf := assemble_of_takeAll {} "" (by decide +kernel) ordered
    (by rw [recorded.1]; rfl) (by rw [recorded.2]; rfl)
  have owns : p.model.OwnsAcross "SimpleAttribute" .none := by
    unfold Model.OwnsAcross
    decide +kernel
  let f := assembled {} "" r ([0, 1].filterMap fun i => r.classes[i]?)
  have omitted : f.omissions = [.repeated "Shelf.books"] := by decide +kernel
  obtain ⟨-, -, -, files, owned⟩ := listedEnds_generated resolved
  obtain ⟨-, -, typed⟩ := files _ _ _ hf
  obtain ⟨owners, -, -⟩ := owned owns
  exact ⟨f, resolved, hf, omitted, typed, owns, owners⟩

end Source

end ModelCompiler
