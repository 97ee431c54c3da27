import ModelCompiler.Proofs.Model.Propagation

/-!
# Links between classes

The direct supertypes of a class and its direct subtypes are two lists, and each generalization of
the document that is between classes adds to either.  Main statement: a generalization between two
classes counts once among the supertypes of the one and once among the subtypes of the other, both
lists are in document order, and any other generalization is worth one warning.  Two generalizations
may say the same, and a class may specialize itself.
-/

namespace ModelCompiler

/-- The generalization that an element is. -/
def Generalization.ofElement (e : Element) : Generalization where
  id := e.id
  specific := e.firstRef "specific"
  general := e.firstRef "general"

theorem Entity.generalization?_ofElement? (cv : Conventions) (g : Graph) (e : Element) :
    (Entity.ofElement? cv g e).bind Entity.generalization? =
      if e.type = "Generalization" then some (Generalization.ofElement e) else none := by
  refine pick_ofElement? (fun _ _ => type_of_generalization?) (fun e h => ?_) e
  simp [ofElement?, h, generalization?, Generalization.ofElement]

/-- The identifiers of the two classes of a link. -/
def Link.ids (l : Link) : String × String := (l.specific.id, l.general.id)

/-- The identifiers of the two ends of a generalization. -/
def Generalization.ids (x : Generalization) : String × String := (x.specific, x.general)

namespace Model

/-! ## Which generalizations are links -/

/-- Whether both identifiers are those of classes. -/
def Joins (m : Model) (ids : String × String) : Prop :=
  ids.1 ∈ m.classes.map (·.id) ∧ ids.2 ∈ m.classes.map (·.id)

instance (m : Model) (ids : String × String) : Decidable (m.Joins ids) :=
  inferInstanceAs (Decidable (_ ∧ _))

variable {m : Model}

theorem class?_eq_none_iff {id : String} : m.class? id = none ↔ id ∉ m.classes.map (·.id) := by
  simp [class?]

theorem id_of_class? {id : String} {c : Class} (h : m.class? id = some c) : c.id = id := by
  simpa using List.find?_some h

/-- A generalization is a link between its two ends if these are classes, and no link otherwise. -/
theorem link?_ids (m : Model) (x : Generalization) :
    (m.link? x).map Link.ids = if m.Joins x.ids then some x.ids else none := by
  cases hs : m.class? x.specific with
  | none =>
    have off : ¬m.Joins x.ids := fun joins => class?_eq_none_iff.1 hs joins.1
    simp [link?, hs, off]
  | some s =>
    have isSpecific := id_of_class? hs
    cases hg : m.class? x.general with
    | none =>
      have off : ¬m.Joins x.ids := fun joins => class?_eq_none_iff.1 hg joins.2
      simp [link?, hs, hg, off]
    | some t =>
      have isGeneral := id_of_class? hg
      have specific : x.specific ∈ m.classes.map (·.id) :=
        List.mem_map.2 ⟨s, mem_classes_of_class? hs, isSpecific⟩
      have general : x.general ∈ m.classes.map (·.id) :=
        List.mem_map.2 ⟨t, mem_classes_of_class? hg, isGeneral⟩
      have joins : m.Joins x.ids := ⟨specific, general⟩
      rw [if_pos joins]
      simp [link?, hs, hg, Link.ids, Generalization.ids, isSpecific, isGeneral]

theorem link?_isNone_iff (m : Model) (x : Generalization) :
    (m.link? x).isNone ↔ ¬m.Joins x.ids := by
  have ids := m.link?_ids x
  split at ids
  · rename_i joins
    obtain ⟨l, hl, -⟩ := Option.map_eq_some_iff.1 ids
    simp [hl, joins]
  · rename_i off
    simp [Option.map_eq_none_iff.1 ids, off]

/-- The links of a model are its generalizations between classes. -/
theorem ids_links (m : Model) :
    m.links.map Link.ids = (m.generalizations.map (·.ids)).filter (m.Joins ·) := by
  rw [links, List.map_filterMap, List.filter_map, ← List.filterMap_eq_map, List.filterMap_filter]
  refine List.filterMap_congr fun x _ => ?_
  rw [link?_ids]
  simp

/-! ## The two lists of a class -/

theorem ids_generals (fresh : m.hierarchy = {}) (id : String) :
    (m.linkClasses.generals id).map (·.id) =
      ((m.links.map Link.ids).filter (·.1 == id)).map (·.2) := by
  simp [generals_linkClasses fresh, List.filter_map, Link.ids, Function.comp_def]

theorem ids_specials (fresh : m.hierarchy = {}) (id : String) :
    (m.linkClasses.specials id).map (·.id) =
      ((m.links.map Link.ids).filter (·.2 == id)).map (·.1) := by
  simp [specials_linkClasses fresh, List.filter_map, Link.ids, Function.comp_def]

/-- Classes are counted by their identifiers. -/
theorem Linked.count_eq (h : m.Linked) {refs : List ClassRef}
    (known : ∀ c ∈ refs, c ∈ m.classRefs) {d : ClassRef} (hd : d ∈ m.classRefs) :
    refs.count d = (refs.map (·.id)).count d.id := by
  rw [List.count_eq_countP, List.count_eq_countP, List.countP_map]
  refine List.countP_congr fun c hc => ?_
  simp only [beq_iff_eq, Function.comp_apply]
  exact ⟨congrArg ClassRef.id, h.eq_of_id_eq (known c hc) hd⟩

/-- A class has another one among its supertypes as often as the links say, ... -/
theorem count_generals (h : m.linkClasses.Linked) (fresh : m.hierarchy = {}) {c : String}
    {d : ClassRef} (hd : d ∈ m.classRefs) :
    (m.linkClasses.generals c).count d = (m.links.map Link.ids).count (c, d.id) := by
  rw [h.count_eq (fun _ hc => (h.of_mem_generals hc).2) hd, ids_generals fresh]
  simp only [List.count_eq_countP, List.countP_map, List.countP_filter]
  refine List.countP_congr fun l _ => ?_
  simp [Link.ids, Prod.ext_iff, and_comm]

/-- ... and the other one has it as often among its subtypes. -/
theorem count_specials (h : m.linkClasses.Linked) (fresh : m.hierarchy = {}) {c : ClassRef}
    {d : String} (hc : c ∈ m.classRefs) :
    (m.linkClasses.specials d).count c = (m.links.map Link.ids).count (c.id, d) := by
  rw [h.count_eq (fun _ hc => (h.of_mem_specials hc).2) hc, ids_specials fresh]
  simp only [List.count_eq_countP, List.countP_map, List.countP_filter]
  refine List.countP_congr fun l _ => ?_
  simp [Link.ids, Prod.ext_iff]

end Model

/-! ## Graphs -/

/-- Warnings are all that warnings add to a journal. -/
theorem Journal.foldl_add_of_warnings (j : Journal) {ds : List Diagnostic}
    (h : ∀ d ∈ ds, d.severity = .warning) :
    ds.foldl Journal.add j =
      { j with report := { j.report with warnings := j.report.warnings ++ ds } } := by
  induction ds generalizing j with
  | nil => simp
  | cons d ds ih =>
    obtain ⟨first, rest⟩ := List.forall_mem_cons.1 h
    rw [List.foldl_cons, ih _ rest]
    simp [add, Report.add, first]

namespace Model

theorem generalizations_ofGraph (cv : Conventions) (g : Graph) :
    (Model.ofGraph cv g).generalizations =
      (g.elements.filter (·.type = "Generalization")).map Generalization.ofElement :=
  view_eq_map_filter (Entity.generalization?_ofElement? cv g)

/-- The links of a graph, by identifiers, are what its generalizations say about classes. -/
theorem ids_links_ofGraph (cv : Conventions) (g : Graph) :
    (Model.ofGraph cv g).links.map Link.ids =
      ((g.elements.filter (·.type = "Generalization")).map fun e =>
        (Generalization.ofElement e).ids).filter ((Model.ofGraph cv g).Joins ·) := by
  rw [ids_links, generalizations_ofGraph, List.map_map]
  rfl

/-- The links that pass a test are, in document order, what the generalizations say that are between
classes and pass the test. -/
theorem filter_ids_links (cv : Conventions) (g : Graph) {p : String × String → Bool}
    (q : Element → Prop) [DecidablePred q]
    (h : ∀ e, q e ↔ p (Generalization.ofElement e).ids = true ∧
      (Model.ofGraph cv g).Joins (Generalization.ofElement e).ids) :
    ((Model.ofGraph cv g).links.map Link.ids).filter p =
      ((g.elements.filter (·.type = "Generalization")).filter (q ·)).map fun e =>
        (Generalization.ofElement e).ids := by
  rw [ids_links_ofGraph, List.filter_filter, List.filter_map]
  congr 1
  refine List.filter_congr fun e _ => ?_
  simp [h e]

section Linked

variable {cv : Conventions} {g : Graph} {c : Class}

/-- The supertypes of a class are in document order. -/
theorem ids_generals_ofGraph (hc : c ∈ (Model.ofGraph cv g).classes) :
    ((Model.ofGraph cv g).linkClasses.generals c.id).map (·.id) =
      ((g.elements.filter (·.type = "Generalization")).filter fun e =>
        e.firstRef "specific" = c.id ∧
          e.firstRef "general" ∈ (Model.ofGraph cv g).classes.map (·.id)).map
            (·.firstRef "general") := by
  rw [ids_generals rfl, filter_ids_links cv g (fun e => e.firstRef "specific" = c.id ∧
    e.firstRef "general" ∈ (Model.ofGraph cv g).classes.map (·.id)), List.map_map]
  · rfl
  · intro e
    rw [beq_iff_eq]
    constructor
    · rintro ⟨same, general⟩
      have specific : e.firstRef "specific" ∈ (Model.ofGraph cv g).classes.map (·.id) :=
        List.mem_map.2 ⟨c, hc, same.symm⟩
      exact ⟨same, specific, general⟩
    · rintro ⟨same, -, general⟩
      exact ⟨same, general⟩

/-- The subtypes of a class are in document order. -/
theorem ids_specials_ofGraph (hc : c ∈ (Model.ofGraph cv g).classes) :
    ((Model.ofGraph cv g).linkClasses.specials c.id).map (·.id) =
      ((g.elements.filter (·.type = "Generalization")).filter fun e =>
        e.firstRef "general" = c.id ∧
          e.firstRef "specific" ∈ (Model.ofGraph cv g).classes.map (·.id)).map
            (·.firstRef "specific") := by
  rw [ids_specials rfl, filter_ids_links cv g (fun e => e.firstRef "general" = c.id ∧
    e.firstRef "specific" ∈ (Model.ofGraph cv g).classes.map (·.id)), List.map_map]
  · rfl
  · intro e
    rw [beq_iff_eq]
    constructor
    · rintro ⟨same, specific⟩
      have general : e.firstRef "general" ∈ (Model.ofGraph cv g).classes.map (·.id) :=
        List.mem_map.2 ⟨c, hc, same.symm⟩
      exact ⟨same, specific, general⟩
    · rintro ⟨same, specific, -⟩
      exact ⟨same, specific⟩

/-- Two classes are linked as often as it is said. -/
theorem count_links_ofGraph {d : Class} (hc : c ∈ (Model.ofGraph cv g).classes)
    (hd : d ∈ (Model.ofGraph cv g).classes) :
    ((Model.ofGraph cv g).links.map Link.ids).count (c.id, d.id) =
      (g.elements.filter (·.type = "Generalization")).countP fun e =>
        e.firstRef "specific" = c.id ∧ e.firstRef "general" = d.id := by
  have joins : (Model.ofGraph cv g).Joins (c.id, d.id) :=
    ⟨List.mem_map_of_mem hc, List.mem_map_of_mem hd⟩
  rw [ids_links_ofGraph, List.count_filter (by simpa using joins), List.count_eq_countP,
    List.countP_map]
  refine List.countP_congr fun e _ => ?_
  simp [Prod.ext_iff, Generalization.ids, Generalization.ofElement]

end Linked

/-- There is a warning for each generalization that is not between two classes. -/
theorem unlinked_ofGraph (cv : Conventions) (g : Graph) :
    (Model.ofGraph cv g).linkClasses.unlinked =
      ((g.elements.filter (·.type = "Generalization")).filter fun e =>
        ¬(e.firstRef "specific" ∈ (Model.ofGraph cv g).classes.map (·.id) ∧
          e.firstRef "general" ∈ (Model.ofGraph cv g).classes.map (·.id))).map fun e =>
            (Generalization.ofElement e).unknownClass := by
  change (Model.ofGraph cv g).unlinked = _
  rw [unlinked, generalizations_ofGraph, List.filter_map, List.map_map]
  congr 1
  refine List.filter_congr fun e _ => ?_
  rw [Bool.eq_iff_iff, decide_eq_true_iff]
  exact link?_isNone_iff _ (.ofElement e)

end Model

/-- A generalization between two classes of a graph is one supertype of the one and one subtype of
the other, however often it is repeated. Supertypes and subtypes are in document order, and each
generalization that is not between two classes is worth one warning, in the same order. -/
theorem generals_inverse_specials (g : Graph) (cv : Conventions) :
    let m := (Model.ofGraph cv g).linkClasses
    let said := g.elements.filter (·.type = "Generalization")
    let ids := m.classes.map (·.id)
    (∀ c ∈ m.classes, ∀ d ∈ m.classes,
      let times := said.countP fun e =>
        e.firstRef "specific" = c.id ∧ e.firstRef "general" = d.id
      (m.generals c.id).count d.toClassRef = times ∧
        (m.specials d.id).count c.toClassRef = times) ∧
    (∀ c ∈ m.classes,
      (m.generals c.id).map (·.id) =
        (said.filter fun e => e.firstRef "specific" = c.id ∧ e.firstRef "general" ∈ ids).map
          (·.firstRef "general") ∧
      (m.specials c.id).map (·.id) =
        (said.filter fun e => e.firstRef "general" = c.id ∧ e.firstRef "specific" ∈ ids).map
          (·.firstRef "specific") ∧
      ∀ d ∈ m.generals c.id ++ m.specials c.id, d ∈ m.classes.map (·.toClassRef)) ∧
    ∀ j : Journal, m.unlinked.foldl Journal.add j =
      { j with report := { j.report with warnings := j.report.warnings ++
          (said.filter fun e =>
            ¬(e.firstRef "specific" ∈ ids ∧ e.firstRef "general" ∈ ids)).map fun e =>
              { severity := .warning
                code := "unknown_class"
                message := "generalization " ++ e.firstRef "specific" ++ " -> " ++
                  e.firstRef "general" ++ " does not link two classes"
                element := e.id
                subject := "" } } } := by
  intro m said ids
  have linked : m.Linked := Model.linked_linkClasses cv g
  refine ⟨?_, ?_, ?_⟩
  · intro c hc d hd times
    have said_times : ((Model.ofGraph cv g).links.map Link.ids).count (c.id, d.id) = times :=
      Model.count_links_ofGraph hc hd
    rw [← said_times]
    exact ⟨Model.count_generals linked rfl (Model.toClassRef_mem_classRefs hd),
      Model.count_specials linked rfl (Model.toClassRef_mem_classRefs hc)⟩
  · intro c hc
    refine ⟨Model.ids_generals_ofGraph hc, Model.ids_specials_ofGraph hc, fun d hd => ?_⟩
    rcases List.mem_append.1 hd with general | special
    · exact (linked.of_mem_generals general).2
    · exact (linked.of_mem_specials special).2
  · intro j
    have unlinked : m.unlinked = _ := Model.unlinked_ofGraph cv g
    rw [Journal.foldl_add_of_warnings j fun d hd => ?_, unlinked]
    · rfl
    · rw [unlinked] at hd
      obtain ⟨e, -, rfl⟩ := List.mem_map.1 hd
      rfl

/-- A van that is a car twice over and a thing that is one of its own kind, with a stray
generalization in between. -/
def showroom : Graph where
  elements :=
    [⟨"van", "Class", [("name", .scalar "Van")]⟩,
     ⟨"first", "Generalization", [("specific", .ref "van"), ("general", .ref "car")]⟩,
     ⟨"stray", "Generalization", [("specific", .ref "van"), ("general", .ref "nowhere")]⟩,
     ⟨"car", "Class", [("name", .scalar "Car")]⟩,
     ⟨"thing", "Class", [("name", .scalar "Thing")]⟩,
     ⟨"own", "Generalization", [("specific", .ref "thing"), ("general", .ref "thing")]⟩,
     ⟨"mixed", "Generalization", [("specific", .ref "van"), ("general", .ref "thing")]⟩,
     ⟨"second", "Generalization", [("specific", .ref "van"), ("general", .ref "car")]⟩]
  ids_nodup := by decide
  ids_ne := by decide

theorem generals_inverse_specials_showroom :
    let m := (Model.ofGraph {} showroom).linkClasses
    m.classes.map (·.id) = ["van", "car", "thing"] ∧
    (m.generals "van").map (·.id) = ["car", "thing", "car"] ∧
    (m.generals "van").count ⟨"car", "Car"⟩ = 2 ∧ (m.specials "car").count ⟨"van", "Van"⟩ = 2 ∧
    (m.specials "thing").map (·.id) = ["thing", "van"] ∧
    (m.unlinked.foldl Journal.add {}).report.warnings.map (fun d => (d.code, d.element)) =
      [("unknown_class", "stray")] := by
  intro m
  have classes : m.classes = [⟨⟨"van", "Van"⟩, [], [], []⟩, ⟨⟨"car", "Car"⟩, [], [], []⟩,
    ⟨⟨"thing", "Thing"⟩, [], [], []⟩] := by decide +kernel
  have van : (⟨⟨"van", "Van"⟩, [], [], []⟩ : Class) ∈ m.classes := by simp [classes]
  have car : (⟨⟨"car", "Car"⟩, [], [], []⟩ : Class) ∈ m.classes := by simp [classes]
  have thing : (⟨⟨"thing", "Thing"⟩, [], [], []⟩ : Class) ∈ m.classes := by simp [classes]
  obtain ⟨counts, ordered, warned⟩ := generals_inverse_specials showroom {}
  obtain ⟨up, down⟩ := counts _ van _ car
  refine ⟨by rw [classes]; rfl, ?_, ?_, ?_, ?_, ?_⟩
  · exact (ordered _ van).1.trans (by decide +kernel)
  · exact up.trans (by decide +kernel)
  · exact down.trans (by decide +kernel)
  · exact (ordered _ thing).2.1.trans (by decide +kernel)
  · rw [warned {}]
    decide +kernel

end ModelCompiler
