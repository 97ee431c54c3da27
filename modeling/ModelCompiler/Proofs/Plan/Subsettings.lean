import ModelCompiler.Proofs.Plan.Acceptance

/-!
# What comes of the names that ends subset

An end that subsets a name becomes a member of the derived union of that name, or there is a warning
that there is no such union.  Main statements: the members of the unions and these warnings are,
in order, the subsettings of the ends whose type identifier is that of a class of the plan, wherever
in the document the unions are declared; and the subsettings of an end whose type is a class of the
plan come to something if and only if the first identifier that its property gives as its type is
that of an element.
-/

namespace ModelCompiler

namespace Plan

/-- The names that some ends subset, each with its end, in order and as often as it is subset, if
the type identifier of the end is that of a class of the plan. -/
def subsettingsOf (p : Plan) (ends : List End) : List Subsetting :=
  (ends.flatMap fun e => e.subsets.map fun s => { member := e, union := s }).filter fun s =>
    s.member.typeId ∈ p.classes.map (·.id)

/-- The ends among some that subset a union. -/
def membersAmong (p : Plan) (union : String) (ends : List End) : List End :=
  ((p.subsettingsOf ends).filter (·.union = union)).map (·.member)

variable {p : Plan} {ends : List End} {s : Subsetting}

theorem mem_subsettingsOf : s ∈ p.subsettingsOf ends ↔
    s.member ∈ ends ∧ s.union ∈ s.member.subsets ∧ s.member.typeId ∈ p.classes.map (·.id) := by
  obtain ⟨member, union⟩ := s
  simp only [subsettingsOf, List.mem_filter, List.mem_flatMap, List.mem_map, Subsetting.mk.injEq,
    decide_eq_true_eq]
  constructor
  · rintro ⟨⟨e, he, s, hs, rfl, rfl⟩, retained⟩
    exact ⟨he, hs, retained⟩
  · rintro ⟨he, hs, retained⟩
    exact ⟨⟨member, he, union, hs, rfl, rfl⟩, retained⟩

theorem subsettings_eq (p : Plan) (ends : List End) :
    subsettings p.classes ends = p.subsettingsOf ends := by
  rw [subsettings, flatMap_filter, subsettingsOf, List.filter_flatMap]
  refine List.flatMap_congr fun e _ => ?_
  have retained : p.classes.any (·.id == e.typeId) =
      decide (e.typeId ∈ p.classes.map (·.id)) := by
    rw [Bool.eq_iff_iff]
    simp
  rw [retained]
  by_cases h : e.typeId ∈ p.classes.map (·.id)
  · rw [if_pos (decide_eq_true h), List.filter_map]
    exact congrArg _ (List.filter_eq_self.2 fun _ _ => decide_eq_true h).symm
  · rw [if_neg (by simpa using h), List.filter_map]
    exact (List.map_eq_nil_iff.2 <| List.filter_eq_nil_iff.2 fun _ _ => mt of_decide_eq_true h).symm

theorem membersAmong_append (p : Plan) (union : String) (ends ends' : List End) :
    p.membersAmong union (ends ++ ends') =
      p.membersAmong union ends ++ p.membersAmong union ends' := by
  simp only [membersAmong, subsettingsOf, List.flatMap_append, List.filter_append, List.map_append]

end Plan

/-! ## Warnings of other kinds -/

/-- There is no warning of an unknown union in the journal. -/
def Journal.NoUnknownUnion (j : Journal) : Prop :=
  ∀ d ∈ j.report.warnings, d.code ≠ "not_derived_union"

namespace Journal.NoUnknownUnion

variable {j : Journal}

theorem add (h : j.NoUnknownUnion) {d : Diagnostic} (hd : d.code ≠ "not_derived_union") :
    (j.add d).NoUnknownUnion := by
  intro x hx
  unfold Journal.add Report.add at hx
  split at hx
  · exact h x hx
  · rcases List.mem_append.1 hx with hx | hx
    · exact h x hx
    · rw [List.mem_singleton.1 hx]
      exact hd
  · exact h x hx

/-- Handing down stereotypes leads to warnings of unknown stereotypes only. -/
theorem propagate (m : Model) (h : j.NoUnknownUnion) : (m.propagate j).journal.NoUnknownUnion := by
  refine List.foldlRecOn m.classes (Propagation.visit m)
    (motive := fun p => p.journal.NoUnknownUnion)
    (b := { stereotypes := m.stereotypes, journal := j }) h fun p hp c _ => ?_
  unfold Propagation.visit
  split
  · exact hp
  · split
    · exact hp.add (by simp [Class.unknownStereotype])
    · refine List.foldlRecOn _ _ (motive := Journal.NoUnknownUnion) ?_ fun k hk _ _ => hk
      exact hp

theorem unlinked (m : Model) (h : j.NoUnknownUnion) :
    (m.unlinked.foldl Journal.add j).NoUnknownUnion := by
  refine List.foldlRecOn m.unlinked Journal.add (motive := Journal.NoUnknownUnion) h
    fun k hk d hd => ?_
  obtain ⟨x, -, rfl⟩ := List.mem_map.1 hd
  exact hk.add (by simp [Generalization.unknownClass])

end Journal.NoUnknownUnion

section Associated

variable {g : Graph} {policy : Policy} {cv : Conventions} {q : Plan}

/-- Until its unions are collected, a plan has no warning of an unknown union. -/
theorem noUnknownUnion_associated (h : g.associated policy cv = (q, none)) :
    q.journal.NoUnknownUnion := by
  have begun : (g.begun policy cv).journal.NoUnknownUnion :=
    .propagate _ (.unlinked _ fun _ hd => by cases hd)
  have warned := Plan.warnings_addAssociations (p := g.begun policy cv) h
  intro d hd
  change d ∈ q.warnings at hd
  rw [warned] at hd
  rcases List.mem_append.1 hd with hd | hd
  · exact begun d hd
  · obtain ⟨a, ha, hd⟩ := List.mem_flatMap.1 hd
    have elements : (g.settled cv).associations = _ := Model.associations_ofGraph cv g
    rw [elements] at ha
    obtain ⟨e, -, rfl⟩ := List.mem_map.1 ha
    have answers := g.answers_begun policy cv e
    by_cases accepted : g.Accepts cv e
    · rw [(answers.accepted accepted).2.2] at hd
      cases hd
    · obtain ⟨-, d', told, warning⟩ := answers.rejected accepted
      rw [told, List.mem_singleton] at hd
      rw [hd]
      rcases warning with ⟨code, -⟩ | ⟨code, -⟩
      · simp [code]
      · simp [code]

end Associated

/-! ## Plans without a fault -/

section Resolved

variable {g : Graph} {policy : Policy} {cv : Conventions}

/-- The members of a union are the ends that subset it. -/
theorem members_resolve (h : (resolve g policy cv).fault? = none) {u : DerivedUnion}
    (hu : u ∈ (resolve g policy cv).plan.derivedUnions) :
    u.members = (resolve g policy cv).plan.membersAmong u.toEnd.name
      (resolve g policy cv).plan.ends := by
  rw [(sorted_of_resolve h).members u hu, Plan.map_membersOf, Plan.subsettings_eq]
  exact congrArg _ (List.filter_congr fun s _ => Bool.beq_eq_decide_eq _ _)

/-- The warnings of unknown unions are those for the subsettings of no union. -/
theorem unknownUnions_resolve (h : (resolve g policy cv).fault? = none) :
    let p := (resolve g policy cv).plan
    p.warnings.filter (·.code = "not_derived_union") =
      ((p.subsettingsOf p.ends).filter (·.union ∉ p.unionNames)).map (·.warning) := by
  intro p
  obtain ⟨q, hq, hp⟩ := resolve_of_no_fault h
  have names : p.unionNames = q.unionNames := by
    change (resolve g policy cv).plan.unionNames = _
    rw [hp, q.unionNames_finish policy]
  have earlier : q.warnings.filter (·.code = "not_derived_union") = [] :=
    List.filter_eq_nil_iff.2 fun d hd => mt of_decide_eq_true (noUnknownUnion_associated hq d hd)
  have ends : q.subsettingsOf q.ends = p.subsettingsOf p.ends := by
    change _ = Plan.subsettingsOf (resolve g policy cv).plan (resolve g policy cv).plan.ends
    rw [hp]
    rfl
  change (resolve g policy cv).plan.warnings.filter _ = _
  rw [hp, q.warnings_finish_eq policy, List.filter_append, earlier, List.nil_append,
    Plan.subsettings_eq, ends, ← names, List.filter_eq_self.2]
  · exact congrArg _ (List.filter_congr fun s _ => by simp)
  · intro d hd
    obtain ⟨s, -, rfl⟩ := List.mem_map.1 hd
    rfl

end Resolved

/-- Derived unions collect the ends that subset them.  The subsettings of the ends whose type
identifier is that of a class of the plan are taken in order: the members of a union are the ends of
those of its name, and the warnings of unknown unions are for those whose name is that of no union.
A union collects all ends alike, whether they come before it, after it, or are the union itself. -/
theorem unions_collect_subsettings (g : Graph) (policy : Policy) (cv : Conventions)
    (h : (resolve g policy cv).fault? = none) :
    let p := (resolve g policy cv).plan
    (∀ u ∈ p.derivedUnions, u.members = p.membersAmong u.toEnd.name p.ends) ∧
    p.warnings.filter (·.code = "not_derived_union") =
      ((p.subsettingsOf p.ends).filter (·.union ∉ p.unionNames)).map (·.warning) ∧
    ∀ u ∈ p.derivedUnions, ∃ before after, p.ends = before ++ u.toEnd :: after ∧
      u.members = p.membersAmong u.toEnd.name before ++
        p.membersAmong u.toEnd.name [u.toEnd] ++ p.membersAmong u.toEnd.name after := by
  intro p
  refine ⟨fun u hu => members_resolve h hu, unknownUnions_resolve h, fun u hu => ?_⟩
  have listed : u.toEnd ∈ p.ends := by
    have listed : u.toEnd ∈ p.derivedUnions.map (·.toEnd) := List.mem_map_of_mem hu
    rw [(sorted_of_resolve h).derivedUnions] at listed
    exact (List.mem_filter.1 listed).1
  obtain ⟨before, after, split⟩ := List.append_of_mem listed
  have all : u.members = p.membersAmong u.toEnd.name p.ends := members_resolve h hu
  refine ⟨before, after, split, ?_⟩
  rw [all, split, ← List.singleton_append, ← List.append_assoc, Plan.membersAmong_append,
    Plan.membersAmong_append]

/-- Strings that subset a union of a later association twice, and a union that there is not; the
union subsets itself, and so do the winds after it. -/
def orchestra : Graph where
  elements :=
    [⟨"band", "Class", [("name", .scalar "Band")]⟩,
     ⟨"strings", "Property",
       [("name", .scalar "strings"), ("class_", .ref "band"), ("type", .ref "band"),
        ("appliedStereotype", .ref "often")]⟩,
     ⟨"bow", "Property", [("type", .ref "band")]⟩,
     ⟨"bowing", "Association", [("memberEnd", .refList ["strings", "bow"])]⟩,
     ⟨"players", "Property",
       [("name", .scalar "players"), ("class_", .ref "band"), ("type", .ref "band"),
        ("isDerived", .scalar "1"), ("appliedStereotype", .ref "once")]⟩,
     ⟨"score", "Property", [("type", .ref "band")]⟩,
     ⟨"playing", "Association", [("memberEnd", .refList ["players", "score"])]⟩,
     ⟨"winds", "Property",
       [("name", .scalar "winds"), ("class_", .ref "band"), ("type", .ref "band"),
        ("appliedStereotype", .ref "once")]⟩,
     ⟨"reed", "Property", [("type", .ref "band")]⟩,
     ⟨"blowing", "Association", [("memberEnd", .refList ["winds", "reed"])]⟩,
     ⟨"often", "InstanceSpecification", [("slot", .ref "list")]⟩,
     ⟨"list", "Slot",
       [("definingFeature", .ref "subsets"), ("value", .scalar "players,guests,players")]⟩,
     ⟨"once", "InstanceSpecification", [("slot", .ref "single")]⟩,
     ⟨"single", "Slot", [("definingFeature", .ref "subsets"), ("value", .scalar "players")]⟩,
     ⟨"subsets", "Property", [("name", .scalar "subsets")]⟩]
  ids_nodup := by decide
  ids_ne := by decide

theorem unions_collect_subsettings_orchestra :
    let p := (resolve orchestra .none {}).plan
    (resolve orchestra .none {}).fault? = none ∧
    p.unionNames = ["players"] ∧
    (∀ u ∈ p.derivedUnions,
      u.members.map (·.property) = ["strings", "strings", "players", "winds"]) ∧
    (p.warnings.filter (·.code = "not_derived_union")).map (fun d => (d.element, d.subject)) =
      [("strings", "Band.guests")] := by
  intro p
  have runs : (resolve orchestra .none {}).fault? = none := by decide +kernel
  obtain ⟨members, warnings, -⟩ := unions_collect_subsettings orchestra .none {} runs
  refine ⟨runs, by decide +kernel, ?_, ?_⟩
  · have collected : ∀ u ∈ p.derivedUnions, (p.membersAmong u.toEnd.name p.ends).map (·.property) =
        ["strings", "strings", "players", "winds"] := by decide +kernel
    intro u hu
    rw [members u hu]
    exact collected u hu
  · rw [warnings]
    decide +kernel

/-! ## Types by their identifiers -/

/-- The first identifier of a field is that of the element that the field leads to, unless it is
that of none. -/
theorem Graph.firstRef_eq_iff {g : Graph} {e t : Element} {field : String}
    (h : g.resolveFirst? e field = some t) :
    e.firstRef field = t.id ↔ g.contains (e.firstRef field) := by
  rw [contains, List.any_eq_true]
  constructor
  · intro same
    exact ⟨t, resolveFirst?_mem h, by rw [same, beq_self_eq_true]⟩
  · rintro ⟨target, ht, same⟩
    have first := resolveFirst?_of_firstRef ht (beq_iff_eq.1 same).symm
    rw [h] at first
    cases first
    exact (beq_iff_eq.1 same).symm

section Resolved

variable {g : Graph} {policy : Policy} {cv : Conventions}

/-- Each end is a property: its type identifier is the first identifier of the type, and its type
has the identifier of the element that the type leads to. -/
theorem exists_element_of_mem_ends (h : (resolve g policy cv).fault? = none) {e : End}
    (he : e ∈ (resolve g policy cv).plan.ends) :
    ∃ member ∈ g.elements, e.property = member.id ∧ e.typeId = member.firstRef "type" ∧
      ∃ t, g.resolveFirst? member "type" = some t ∧ e.type.id = t.id := by
  rw [ends_resolve h, model_resolve h] at he
  obtain ⟨s, hs, rfl⟩ := List.mem_map.1 he
  obtain ⟨a, -, hs⟩ := List.mem_flatMap.1 hs
  obtain ⟨member, hm, e, he, head⟩ := Model.exists_member_of_mem_seats hs
  obtain ⟨p, type, owner?, known, found, -, rfl⟩ := Model.memberEnd_eq_ok he
  have read : p = Property.ofElement g member := Model.property?_ofGraph hm known
  obtain ⟨-, t, leads, same⟩ := exists_of_lookupClass found
  refine ⟨member, hm, ?_, ?_, t, leads, ?_⟩
  · rw [head, read]
    exact End.property_ofProperty _ _ _ _
  · rw [head, read]
    exact End.typeId_ofProperty _ _ _ _
  · rw [head, ← same]
    exact congrArg ClassRef.id (End.type_ofProperty _ _ _ _)

/-- Ends of one property have one type identifier. -/
theorem typeId_eq_of_property_eq (h : (resolve g policy cv).fault? = none) {e f : End}
    (he : e ∈ (resolve g policy cv).plan.ends) (hf : f ∈ (resolve g policy cv).plan.ends)
    (same : e.property = f.property) : e.typeId = f.typeId := by
  obtain ⟨a, ha, ea, eta, -⟩ := exists_element_of_mem_ends h he
  obtain ⟨b, hb, fb, ftb, -⟩ := exists_element_of_mem_ends h hf
  have one : a = b := List.inj_on_of_nodup_map g.ids_nodup ha hb (by rw [← ea, ← fb, same])
  rw [eta, ftb, one]

end Resolved

namespace Plan

/-- Something comes of a subsetting: its end is a member of a union of the name, or there is a
warning. -/
def Heeds (p : Plan) (s : Subsetting) : Prop :=
  (∃ u ∈ p.derivedUnions, u.toEnd.name = s.union ∧ s.member ∈ u.members) ∨
    s.warning ∈ p.warnings

instance (p : Plan) (s : Subsetting) : Decidable (p.Heeds s) :=
  inferInstanceAs (Decidable ((∃ u ∈ p.derivedUnions, _ ∧ _) ∨ _))

end Plan

section Resolved

variable {g : Graph} {policy : Policy} {cv : Conventions}

/-- Something comes of the subsettings of the ends whose type identifier is that of a class of the
plan, and nothing comes of others. -/
theorem heeds_iff_of_resolve (h : (resolve g policy cv).fault? = none) {s : Subsetting}
    (he : s.member ∈ (resolve g policy cv).plan.ends) (hs : s.union ∈ s.member.subsets) :
    (resolve g policy cv).plan.Heeds s ↔
      s.member.typeId ∈ (resolve g policy cv).plan.classes.map (·.id) := by
  let p := (resolve g policy cv).plan
  have warned : p.warnings.filter (·.code = "not_derived_union") =
      ((p.subsettingsOf p.ends).filter (·.union ∉ p.unionNames)).map (·.warning) :=
    unknownUnions_resolve h
  constructor
  · rintro (⟨u, hu, -, member⟩ | warning)
    · rw [members_resolve h hu] at member
      obtain ⟨t, ht, same⟩ := List.mem_map.1 member
      rw [← same]
      exact (Plan.mem_subsettingsOf.1 (List.mem_filter.1 ht).1).2.2
    · have warning : s.warning ∈ p.warnings.filter (·.code = "not_derived_union") :=
        List.mem_filter.2 ⟨warning, rfl⟩
      rw [warned] at warning
      obtain ⟨t, ht, same⟩ := List.mem_map.1 warning
      obtain ⟨listed, -, retained⟩ := Plan.mem_subsettingsOf.1 (List.mem_filter.1 ht).1
      rw [← typeId_eq_of_property_eq h listed he (congrArg Diagnostic.element same)]
      exact retained
  · intro retained
    have taken : s ∈ p.subsettingsOf p.ends := Plan.mem_subsettingsOf.2 ⟨he, hs, retained⟩
    by_cases known : s.union ∈ p.unionNames
    · obtain ⟨u, hu, name⟩ := List.mem_map.1 known
      refine .inl ⟨u, hu, name, ?_⟩
      rw [members_resolve h hu]
      exact List.mem_map_of_mem (List.mem_filter.2 ⟨taken, decide_eq_true name.symm⟩)
    · have warning : s.warning ∈ p.warnings.filter (·.code = "not_derived_union") := by
        rw [warned]
        exact List.mem_map_of_mem (List.mem_filter.2 ⟨taken, decide_eq_true known⟩)
      exact .inr (List.mem_filter.1 warning).1

end Resolved

/-- The type identifier of an end is that of its type if and only if it is that of an element, and
if the type is a class of the plan, then so it is that something comes of each name that the end
subsets. -/
theorem subsets_heeded_iff_of_resolve (g : Graph) (policy : Policy) (cv : Conventions)
    (h : (resolve g policy cv).fault? = none) :
    let p := (resolve g policy cv).plan
    ∀ e ∈ p.ends,
      (e.typeId = e.type.id ↔ g.contains e.typeId) ∧
      (e.type.id ∈ p.classes.map (·.id) → ∀ s ∈ e.subsets,
        (p.Heeds { member := e, union := s } ↔ g.contains e.typeId)) := by
  intro p e he
  obtain ⟨member, -, -, first, t, leads, same⟩ := exists_element_of_mem_ends h he
  have agree : e.typeId = e.type.id ↔ g.contains e.typeId := by
    rw [first, same]
    exact Graph.firstRef_eq_iff leads
  refine ⟨agree, fun retained s hs => ?_⟩
  rw [heeds_iff_of_resolve h he hs]
  constructor
  · intro listed
    obtain ⟨c, hc, hid⟩ := List.mem_map.1 listed
    obtain ⟨x, hx, hxc⟩ := Model.exists_element_of_mem_classes (mem_classes_of_resolve h hc)
    exact List.any_eq_true.2 ⟨x, hx, by rw [hxc, hid, beq_self_eq_true]⟩
  · intro known
    rw [agree.2 known]
    exact retained

/-- A car with a union `parts` and wheels that subset it, whose type is given by a list. -/
def carriage (types : List String) : Graph where
  elements :=
    [⟨"car", "Class", [("name", .scalar "Car")]⟩,
     ⟨"parts", "Property",
       [("name", .scalar "parts"), ("class_", .ref "car"), ("type", .ref "car"),
        ("isDerived", .scalar "1")]⟩,
     ⟨"whole", "Property", [("type", .ref "car")]⟩,
     ⟨"composition", "Association", [("memberEnd", .refList ["parts", "whole"])]⟩,
     ⟨"wheels", "Property",
       [("name", .scalar "wheels"), ("class_", .ref "car"), ("type", .refList types),
        ("appliedStereotype", .ref "applied")]⟩,
     ⟨"hub", "Property", [("type", .ref "car")]⟩,
     ⟨"mounting", "Association", [("memberEnd", .refList ["wheels", "hub"])]⟩,
     ⟨"applied", "InstanceSpecification", [("slot", .ref "slot")]⟩,
     ⟨"slot", "Slot", [("definingFeature", .ref "subsets"), ("value", .scalar "parts")]⟩,
     ⟨"subsets", "Property", [("name", .scalar "subsets")]⟩]
  ids_nodup := (by decide : ["car", "parts", "whole", "composition", "wheels", "hub", "mounting",
    "applied", "slot", "subsets"].Nodup)
  ids_ne := by simp

/-- An identifier of nothing does no harm after that of the class. -/
theorem subsets_heeded_carriage :
    let p := (resolve (carriage ["car", "gone"]) .none {}).plan
    (resolve (carriage ["car", "gone"]) .none {}).fault? = none ∧
    ∃ e ∈ p.ends, e.property = "wheels" ∧ e.subsets = ["parts"] ∧ e.typeId = e.type.id ∧
      p.Heeds { member := e, union := "parts" } := by
  intro p
  have runs : (resolve (carriage ["car", "gone"]) .none {}).fault? = none := by decide +kernel
  have wheels : ∃ e ∈ p.ends, e.property = "wheels" ∧ e.subsets = ["parts"] ∧
      e.type.id ∈ p.classes.map (·.id) ∧ (carriage ["car", "gone"]).contains e.typeId := by
    decide +kernel
  obtain ⟨e, he, property, subsets, retained, known⟩ := wheels
  obtain ⟨agree, heeded⟩ :=
    subsets_heeded_iff_of_resolve (carriage ["car", "gone"]) .none {} runs e he
  refine ⟨runs, e, he, property, subsets, agree.2 known, ?_⟩
  exact (heeded retained "parts" (by rw [subsets]; decide)).2 known

/-- Before it, the wheels are no part of the car, and nobody is told. -/
theorem not_subsets_heeded_carriage :
    let p := (resolve (carriage ["gone", "car"]) .none {}).plan
    (resolve (carriage ["gone", "car"]) .none {}).fault? = none ∧
    ∃ e ∈ p.ends, e.typeId ≠ e.type.id ∧ e.type.id ∈ p.classes.map (·.id) ∧
      "parts" ∈ e.subsets ∧ ¬p.Heeds { member := e, union := "parts" } := by
  decide +kernel

end ModelCompiler
