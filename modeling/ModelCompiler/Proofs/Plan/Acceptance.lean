import ModelCompiler.Proofs.Plan.Members
import ModelCompiler.Proofs.Plan.Retention

/-!
# Accepted associations and warnings for the others

An association is accepted if it has two members, both of which are properties whose type, and
whose owner if they have one, is a class that the removal of metaclasses leaves.  Main statement:
the ends of a plan are those of the accepted associations, two for each, and the warnings that
adding associations leads to are those for the others, one for each, all in document order.  So no
association gets lost without a word.
-/

namespace ModelCompiler

/-! ## What is accepted -/

namespace Graph

/-- The removal of metaclasses leaves the element: it would be retained if it had no stereotype. -/
def InScope (g : Graph) (cv : Conventions) (e : Element) : Prop := g.Retains cv "" e

/-- A member of an association that can be one of its ends. -/
structure IsEnd (g : Graph) (cv : Conventions) (member : Element) : Prop where
  isProperty : member.type = "Property"
  typed : ∃ t, g.resolveFirst? member "type" = some t ∧ g.InScope cv t
  owned : member.has "class_" → ∃ o, g.resolveFirst? member "class_" = some o ∧ g.InScope cv o

/-- The element of an association with two members that can be its ends. -/
def Accepts (g : Graph) (cv : Conventions) (a : Element) : Prop :=
  ∃ first second, g.resolve a "memberEnd" = [first, second] ∧
    g.IsEnd cv first ∧ g.IsEnd cv second

/-- What is to come of an association: if it is accepted, its two ends and no warning, and otherwise
no end and one warning, that it is bad or that the class of a member is unknown. -/
structure Answers (g : Graph) (cv : Conventions) (a : Element) (ends : List End)
    (warnings : List Diagnostic) : Prop where
  accepted : g.Accepts cv a → ends.length = 2 ∧
    ends.map (·.property) = (g.resolve a "memberEnd").map (·.id) ∧ warnings = []
  rejected : ¬g.Accepts cv a → ends = [] ∧ ∃ d, warnings = [d] ∧
    (d.code = "bad_association" ∧ d.element = a.id ∨
      d.code = "unknown_class" ∧ d.element ∈ (g.resolve a "memberEnd").map (·.id))

instance (g : Graph) (cv : Conventions) (e : Element) : Decidable (g.InScope cv e) :=
  inferInstanceAs (Decidable (g.Retains cv "" e))

instance (g : Graph) (cv : Conventions) (member : Element) : Decidable (g.IsEnd cv member) :=
  decidable_of_iff (member.type = "Property" ∧
      (∃ t ∈ g.resolveFirst? member "type", g.InScope cv t) ∧
      (member.has "class_" → ∃ o ∈ g.resolveFirst? member "class_", g.InScope cv o))
    ⟨fun ⟨isProperty, typed, owned⟩ => ⟨isProperty, typed, owned⟩,
      fun ⟨isProperty, typed, owned⟩ => ⟨isProperty, typed, owned⟩⟩

theorem has_of_resolveFirst? {g : Graph} {e t : Element} {field : String}
    (h : g.resolveFirst? e field = some t) : e.has field := by
  cases absent : e.field field with
  | absent => simp [resolveFirst?, resolve, Element.refs, absent, Field.targets] at h
  | scalar => simp [Element.has, absent, Field.isAbsent]
  | ref => simp [Element.has, absent, Field.isAbsent]
  | refList => simp [Element.has, absent, Field.isAbsent]

end Graph

/-! ## The kinds of elements that make an association -/

def Association.ofElement (e : Element) : Association where
  id := e.id
  memberEnds := e.refs "memberEnd"

theorem Entity.association?_ofElement? (cv : Conventions) (g : Graph) (e : Element) :
    (Entity.ofElement? cv g e).bind Entity.association? =
      if e.type = "Association" then some (Association.ofElement e) else none := by
  refine pick_ofElement? (fun _ _ => type_of_association?) (fun e h => ?_) e
  simp [ofElement?, h, association?, Association.ofElement]

namespace Model

variable {cv : Conventions} {g : Graph}

theorem associations_ofGraph (cv : Conventions) (g : Graph) :
    (Model.ofGraph cv g).associations =
      (g.elements.filter fun e => e.type = "Association").map Association.ofElement :=
  view_eq_map_filter (Entity.association?_ofElement? cv g)

theorem property?_settled {e : Element} (he : e ∈ g.elements) {p : Property} :
    (g.settled cv).property? e.id = some p ↔
      e.type = "Property" ∧ Property.ofElement g e = p := property?_ofGraph_eq_some he

end Model

namespace Graph

variable {cv : Conventions} {g : Graph}

/-- The classes that the ends of associations may refer to. -/
def scope (g : Graph) (cv : Conventions) : List Class :=
  (g.settled cv).withoutMetaclasses (g.settled cv).classes

/-- The classes in scope are the elements that the removal of metaclasses leaves. -/
theorem exists_mem_scope_iff (cv : Conventions) {e : Element} (he : e ∈ g.elements) :
    (∃ c ∈ g.scope cv, c.id = e.id) ↔ g.InScope cv e := by
  have classes : (g.settled cv).classes = (Model.ofGraph cv g).classes := rfl
  have metaclass := Model.isMetaclass_settled_eq_false cv he
  simp only [scope, Model.withoutMetaclasses, classes, Model.classes_ofGraph, List.mem_filter,
    List.mem_map, Bool.not_eq_true', decide_eq_true_eq]
  constructor
  · rintro ⟨_, ⟨⟨e', ⟨he', isClass, named, noEnumeration⟩, rfl⟩, noMetaclass⟩, hid⟩
    have same : e' = e := List.inj_on_of_nodup_map g.ids_nodup he' he hid
    subst same
    exact ⟨isClass, named, isEnumerationName_eq_false.1 noEnumeration, metaclass.1 noMetaclass,
      .inl rfl⟩
  · rintro ⟨isClass, named, noEnumeration, noMetaclass, -⟩
    exact ⟨Class.ofElement e, ⟨⟨e, ⟨he, isClass, named,
      isEnumerationName_eq_false.2 noEnumeration⟩, rfl⟩, metaclass.2 noMetaclass⟩, rfl⟩

/-- A look-up finds a class if the field leads to one in scope. -/
theorem exists_found_iff (g : Graph) (cv : Conventions) (e : Element) (field : String) :
    (∃ c, lookupClass g (g.scope cv) e field = .found c) ↔
      ∃ t, g.resolveFirst? e field = some t ∧ g.InScope cv t := by
  unfold lookupClass
  cases first : g.resolveFirst? e field with
  | none => cases e.has field <;> simp
  | some t =>
    have leads : (!e.has field) = false := by rw [has_of_resolveFirst? first]; rfl
    have known := exists_mem_scope_iff cv (resolveFirst?_mem first)
    rw [leads]
    cases found : (g.scope cv).find? (·.id == t.id) with
    | none =>
      have none : ¬g.InScope cv t := fun inScope => by
        obtain ⟨c, hc, hid⟩ := known.2 inScope
        exact List.find?_eq_none.1 found c hc (beq_iff_eq.2 hid)
      simpa [found] using none
    | some c =>
      have some : g.InScope cv t :=
        known.1 ⟨c, List.mem_of_find?_eq_some found, by simpa using List.find?_some found⟩
      simpa [found] using some

theorem absent_iff (g : Graph) (cv : Conventions) (e : Element) (field : String) :
    lookupClass g (g.scope cv) e field = .absent ↔ e.has field = false := by
  unfold lookupClass
  cases e.has field with
  | false => simp
  | true =>
    cases g.resolveFirst? e field with
    | none => simp
    | some t =>
      cases found : (g.scope cv).find? (·.id == t.id) <;> simp [found]

end Graph

/-! ## One association -/

namespace Model

variable {cv : Conventions} {g : Graph}

/-- What comes of a member: its end, or a warning that its association is bad or that its class is
unknown. -/
theorem memberEnd_cases (cv : Conventions) (a : Association) {member : Element}
    (hm : member ∈ g.elements) :
    (g.IsEnd cv member ∧ ∃ e, (g.settled cv).memberEnd (g.scope cv) a member = .ok e ∧
      e.property = member.id) ∨
    (¬g.IsEnd cv member ∧ ∃ d, (g.settled cv).memberEnd (g.scope cv) a member = .error d ∧
      (d.code = "bad_association" ∧ d.element = a.id ∨
        d.code = "unknown_class" ∧ d.element = member.id)) := by
  have graph : (g.settled cv).graph = g := rfl
  unfold memberEnd
  rw [graph]
  cases hp : (g.settled cv).property? member.id with
  | none =>
    refine .inr ⟨fun h => ?_, _, rfl, .inl ⟨rfl, rfl⟩⟩
    rw [(property?_settled hm).2 ⟨h.isProperty, rfl⟩] at hp
    cases hp
  | some p =>
    obtain ⟨isProperty, rfl⟩ := (property?_settled hm).1 hp
    have typed := g.exists_found_iff cv member "type"
    have owned := g.exists_found_iff cv member "class_"
    have unowned := g.absent_iff cv member "class_"
    cases ht : lookupClass g (g.scope cv) member "type" with
    | absent =>
      refine .inr ⟨fun h => ?_, _, rfl, .inr ⟨rfl, rfl⟩⟩
      simpa [ht] using typed.2 h.typed
    | unknown =>
      refine .inr ⟨fun h => ?_, _, rfl, .inr ⟨rfl, rfl⟩⟩
      simpa [ht] using typed.2 h.typed
    | found type =>
      have typed := typed.1 ⟨type, ht⟩
      cases ho : lookupClass g (g.scope cv) member "class_" with
      | unknown =>
        refine .inr ⟨fun h => ?_, _, rfl, .inr ⟨rfl, rfl⟩⟩
        have has : member.has "class_" = true := by
          rw [← Bool.not_eq_false, ← unowned, ho]
          exact fun h => by cases h
        simpa [ho] using owned.2 (h.owned has)
      | absent =>
        refine .inl ⟨⟨isProperty, typed, fun has => ?_⟩, _, rfl, rfl⟩
        rw [unowned.1 ho] at has
        cases has
      | found owner =>
        exact .inl ⟨⟨isProperty, typed, fun _ => owned.1 ⟨owner, ho⟩⟩, _, rfl, rfl⟩

/-- What comes of an association: its ends, or one warning. -/
theorem endsOf_cases (cv : Conventions) (g : Graph) (a : Element) :
    (g.Accepts cv a ∧ ∃ ends, (g.settled cv).endsOf (g.scope cv) (.ofElement a) = .ok ends ∧
      [ends.1.property, ends.2.property] = (g.resolve a "memberEnd").map (·.id)) ∨
    (¬g.Accepts cv a ∧ ∃ d, (g.settled cv).endsOf (g.scope cv) (.ofElement a) = .error d ∧
      (d.code = "bad_association" ∧ d.element = a.id ∨
        d.code = "unknown_class" ∧ d.element ∈ (g.resolve a "memberEnd").map (·.id))) := by
  have members : (Association.ofElement a).memberEnds.filterMap (g.settled cv).graph.get? =
      g.resolve a "memberEnd" := rfl
  have known : ∀ x ∈ g.resolve a "memberEnd", x ∈ g.elements := by
    intro x hx
    obtain ⟨id, -, hid⟩ := List.mem_filterMap.1 hx
    exact (Graph.get?_eq_some.1 hid).1
  unfold endsOf
  rw [members]
  split
  · rename_i first second pair
    rw [pair] at known
    have hf : first ∈ g.elements := known first (by simp)
    have hs : second ∈ g.elements := known second (by simp)
    have accepts : g.Accepts cv a ↔ g.IsEnd cv first ∧ g.IsEnd cv second := by
      rw [Graph.Accepts, pair]
      constructor
      · rintro ⟨_, _, same, ends⟩
        cases same
        exact ends
      · exact fun ends => ⟨first, second, rfl, ends⟩
    rw [accepts, pair]
    rcases memberEnd_cases cv (.ofElement a) hf with
      ⟨isFirst, e, he, idFirst⟩ | ⟨noFirst, d, hd, warning⟩
    · rw [he]
      rcases memberEnd_cases cv (.ofElement a) hs with
        ⟨isSecond, f, hf, idSecond⟩ | ⟨noSecond, d, hd, warning⟩
      · rw [hf]
        exact .inl ⟨⟨isFirst, isSecond⟩, (e, f), rfl, by simp [idFirst, idSecond]⟩
      · rw [hd]
        refine .inr ⟨fun h => noSecond h.2, d, rfl, warning.imp id fun ⟨code, element⟩ => ?_⟩
        exact ⟨code, by simp [element]⟩
    · rw [hd]
      refine .inr ⟨fun h => noFirst h.1, d, rfl, warning.imp id fun ⟨code, element⟩ => ?_⟩
      exact ⟨code, by simp [element]⟩
  · rename_i other
    refine .inr ⟨?_, _, rfl, .inl ⟨rfl, rfl⟩⟩
    rintro ⟨first, second, pair, -⟩
    exact other first second pair

/-- The warnings for an association. -/
def warningsAt (m : Model) (a : Association) : List Diagnostic :=
  match m.endsOf (m.withoutMetaclasses m.classes) a with
  | .error d => [d]
  | .ok _ => []

end Model

/-! ## Warnings while associations are added -/

namespace Subsetting

/-- The warning that there is no such union. -/
def warning (s : Subsetting) : Diagnostic where
  severity := .warning
  code := "not_derived_union"
  message := "not a derived union: " ++ s.subject
  element := s.member.property
  subject := s.subject

theorem warnings_unknownUnion (names : List String) (s : Subsetting) (j : Journal) :
    (s.unknownUnion names j).report.warnings = j.report.warnings ++ [s.warning] := by
  unfold unknownUnion
  split <;> rfl

end Subsetting

namespace Plan

theorem warnings_addAssociation (p : Plan) (stereotype : String) (policy : Policy)
    (a : Association) :
    (p.addAssociation (p.model.withoutMetaclasses p.model.classes) stereotype policy a).1.warnings =
      p.warnings ++ p.model.warningsAt a := by
  unfold addAssociation Model.warningsAt
  cases he : p.model.endsOf (p.model.withoutMetaclasses p.model.classes) a with
  | error d =>
    have warning := Model.severity_of_endsOf he
    simp only [warnings, Journal.add, Report.add, warning]
  | ok ends => rw [(silent_addEnds p _).warnings, List.append_nil]

/-- A run over associations leads to the warnings for each of them, in order. -/
theorem warnings_addAssociations {stereotype : String} {policy : Policy} {as : List Association}
    {p q : Plan}
    (h : addAssociations (p.model.withoutMetaclasses p.model.classes) stereotype policy p as =
      (q, none)) :
    q.warnings = p.warnings ++ as.flatMap p.model.warningsAt := by
  induction as generalizing p with
  | nil =>
    cases h
    simp
  | cons a as ih =>
    rw [addAssociations, andThen_eq_none] at h
    obtain ⟨p₁, h₁, h₂⟩ := h
    have first := warnings_addAssociation p stereotype policy a
    have model := (gains_addAssociation h₁).model
    rw [h₁] at first
    rw [← model] at h₂
    rw [ih h₂, first, model, List.flatMap_cons, List.append_assoc]

/-- Finishing a plan leads to a warning for each subsetting of no union, in order. -/
theorem warnings_finish_eq (p : Plan) (policy : Policy) :
    (p.finish policy).warnings = p.warnings ++
      ((subsettings p.classes p.ends).filter fun s => !p.unionNames.contains s.union).map
        Subsetting.warning := by
  have told (l : List Subsetting) (j : Journal) :
      (l.foldl (fun j s => s.unknownUnion p.unionNames j) j).report.warnings =
        j.report.warnings ++ l.map Subsetting.warning := by
    induction l generalizing j with
    | nil => simp
    | cons s l ih => rw [List.foldl_cons, ih, s.warnings_unknownUnion, List.map_cons]; simp
  change p.collectUnions.journal.report.warnings = _
  rw [p.journal_collectUnions]
  exact told _ p.journal

/-- Finishing a plan leads to warnings of unknown unions only. -/
theorem warnings_finish (p : Plan) (policy : Policy) :
    ∃ later, (p.finish policy).warnings = p.warnings ++ later ∧
      ∀ d ∈ later, d.code = "not_derived_union" := by
  refine ⟨_, p.warnings_finish_eq policy, fun d hd => ?_⟩
  obtain ⟨s, -, rfl⟩ := List.mem_map.1 hd
  rfl

end Plan

/-! ## Plans -/

section Resolved

variable {g : Graph} {policy : Policy} {cv : Conventions}

/-- A lenient run without a fault ends with the plan of all associations, finished. -/
theorem resolve_of_lenient (lenient : cv.strict = false)
    (h : (resolve g policy cv).fault? = none) :
    ∃ q, g.associated policy cv = (q, none) ∧
      (resolve g policy cv).plan = q.finish policy := by
  rw [resolve_eq] at h ⊢
  split at h
  · cases h
  · split at h
    · cases h
    · rename_i q hq
      exact ⟨q, hq, by simp [lenient]⟩

/-- Each association comes to what it should when it is added to the plan that was begun. -/
theorem Graph.answers_begun (g : Graph) (policy : Policy) (cv : Conventions) (a : Element) :
    let m := (g.begun policy cv).model
    g.Answers cv a ((m.seats cv.simpleAttribute policy (.ofElement a)).map (·.head))
      (m.warningsAt (.ofElement a)) := by
  intro m
  let ends := (m.seats cv.simpleAttribute policy (.ofElement a)).map (·.head)
  let warnings := m.warningsAt (.ofElement a)
  change g.Answers cv a ends warnings
  have settled : m.endsOf (m.withoutMetaclasses m.classes) (.ofElement a) =
      (g.settled cv).endsOf (g.scope cv) (.ofElement a) := rfl
  rcases Model.endsOf_cases cv g a with ⟨accepted, pair, hpair, ids⟩ | ⟨rejected, d, hd, warning⟩
  · have taken : ends = (m.seatsOf cv.simpleAttribute policy pair).map (·.head) := by
      simp only [ends, Model.seats, settled, hpair]
    have silent : warnings = [] := by
      simp only [warnings, Model.warningsAt, settled, hpair]
    refine ⟨fun _ => ⟨?_, ?_, silent⟩, fun h => absurd accepted h⟩
    · rw [taken]
      rfl
    · rw [taken, ← ids]
      rfl
  · have untaken : ends = [] := by
      simp only [ends, Model.seats, settled, hd, List.map_nil]
    have told : warnings = [d] := by
      simp only [warnings, Model.warningsAt, settled, hd]
    exact ⟨fun h => absurd h rejected, fun _ => ⟨untaken, d, told, warning⟩⟩

end Resolved

/-- Each association of a graph either is accepted and has its two ends in the plan, or has one
warning: that it is bad, or that the class of a member is unknown.  All ends and all warnings are in
document order; other warnings come from before or after. -/
theorem associations_accepted_or_warned (g : Graph) (policy : Policy) (cv : Conventions)
    (lenient : cv.strict = false) (h : (resolve g policy cv).fault? = none) :
    let p := (resolve g policy cv).plan
    let as := g.elements.filter (·.type = "Association")
    ∃ (ends : Element → List End) (warnings : Element → List Diagnostic) (later : List Diagnostic),
      p.ends = as.flatMap ends ∧
      p.warnings = (g.begun policy cv).warnings ++ as.flatMap warnings ++ later ∧
      (∀ d ∈ later, d.code = "not_derived_union") ∧
      ∀ a ∈ as, g.Answers cv a (ends a) (warnings a) := by
  intro p as
  obtain ⟨q, hq, hp⟩ := resolve_of_lenient lenient h
  obtain ⟨later, finished, codes⟩ := q.warnings_finish policy
  have gained := Plan.gains_addAssociations (p := g.begun policy cv) hq
  have warned := Plan.warnings_addAssociations (p := g.begun policy cv) hq
  have elements : (g.settled cv).associations = as.map Association.ofElement :=
    Model.associations_ofGraph cv g
  let ends (a : Element) : List End :=
    ((g.begun policy cv).model.seats cv.simpleAttribute policy (.ofElement a)).map (·.head)
  let warnings (a : Element) : List Diagnostic :=
    (g.begun policy cv).model.warningsAt (.ofElement a)
  have listed : p.ends = as.flatMap ends := by
    change (resolve g policy cv).plan.ends = _
    rw [hp]
    change q.ends = _
    rw [gained.ends, elements, List.flatMap_map, List.map_flatMap]
    rfl
  have reported : p.warnings = (g.begun policy cv).warnings ++ as.flatMap warnings ++ later := by
    change (resolve g policy cv).plan.warnings = _
    rw [hp, finished, warned, elements, List.flatMap_map]
  exact ⟨ends, warnings, later, listed, reported, codes, fun a _ => g.answers_begun policy cv a⟩

/-- One association that is accepted and three that are not: one with a metaclass, one with a single
member and one with a class as a member. -/
def house : Graph where
  elements :=
    [⟨"room", "Class", [("name", .scalar "Room")]⟩,
     ⟨"meta", "Class", [("name", .scalar "Element")]⟩,
     ⟨"base", "Property", [("type", .ref "meta")]⟩,
     ⟨"extension", "Extension", [("memberEnd", .ref "base")]⟩,
     ⟨"lamp", "Property",
       [("name", .scalar "lamp"), ("class_", .ref "room"), ("type", .ref "room")]⟩,
     ⟨"door", "Property", [("type", .ref "room")]⟩,
     ⟨"stray", "Association", [("memberEnd", .refList ["lamp", "base"])]⟩,
     ⟨"lone", "Association", [("memberEnd", .refList ["nowhere", "door"])]⟩,
     ⟨"lighting", "Association", [("memberEnd", .refList ["lamp", "door"])]⟩,
     ⟨"mixed", "Association", [("memberEnd", .refList ["door", "room"])]⟩]
  ids_nodup := by decide
  ids_ne := by decide

theorem associations_accepted_or_warned_house :
    let p := (resolve house .none {}).plan
    (resolve house .none {}).fault? = none ∧
    (house.elements.filter fun e => house.IsEnd {} e).map (·.id) = ["lamp", "door"] ∧
    p.ends.map (·.property) = ["lamp", "door"] ∧
    p.warnings.map (fun d => (d.code, d.element)) =
      [("unknown_class", "base"), ("bad_association", "lone"), ("bad_association", "mixed")] ∧
    ∀ a ∈ house.elements, a.type = "Association" → house.Accepts {} a ∨ ∃ d ∈ p.warnings,
      d.element = a.id ∨ d.element ∈ (house.resolve a "memberEnd").map (·.id) := by
  intro p
  have runs : (resolve house .none {}).fault? = none := by decide +kernel
  refine ⟨runs, by decide +kernel, by decide +kernel, by decide +kernel, ?_⟩
  intro a ha isAssociation
  obtain ⟨_, warnings, later, -, reported, -, each⟩ :=
    associations_accepted_or_warned house .none {} rfl runs
  by_cases accepted : house.Accepts {} a
  · exact .inl accepted
  · have hf : a ∈ house.elements.filter (·.type = "Association") := by simp [ha, isAssociation]
    obtain ⟨-, d, hd, warning⟩ := (each a hf).rejected accepted
    refine .inr ⟨d, ?_, warning.imp (·.2) (·.2)⟩
    have listed : d ∈ (house.elements.filter (·.type = "Association")).flatMap warnings :=
      List.mem_flatMap.2 ⟨a, hf, by simp [hd]⟩
    change d ∈ (resolve house .none {}).plan.warnings
    rw [reported]
    exact List.mem_append_left _ (List.mem_append_right _ listed)

end ModelCompiler
