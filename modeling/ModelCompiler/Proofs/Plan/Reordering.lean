import ModelCompiler.Proofs.Model.Reordering
import ModelCompiler.Proofs.Plan.Frame
import ModelCompiler.Proofs.Plan.Roles

/-!
# Plans of graphs that differ in order

A plan reads its model through look-ups and through lists that moving other elements does not
change.  So every step does the same to a plan over one model as over another that agrees with it.
Main statement: moving elements around, with classes, generalizations and associations in order
among themselves, changes neither the fault nor the plan, apart from the graph that it keeps.
-/

namespace ModelCompiler

namespace Plan

/-- The plan with another model. -/
def withModel (p : Plan) (m : Model) : Plan := { p with model := m }

/-- The outcome of a step, with another model. -/
def outcomeWith (m : Model) (r : Plan × Option Fault) : Plan × Option Fault :=
  (r.1.withModel m, r.2)

variable {p : Plan} {m : Model}

/-! ## Steps that do not read the model -/

theorem noteTags_withModel (p : Plan) (m : Model) (e : End) :
    (p.withModel m).noteTags e = outcomeWith m (p.noteTags e) := by
  unfold noteTags
  split
  · rfl
  · split <;> rfl

theorem addUnion_withModel (p : Plan) (m : Model) (e : End) :
    (p.withModel m).addUnion e = outcomeWith m (p.addUnion e) := by
  have unions : (p.withModel m).derivedUnions = p.derivedUnions := rfl
  unfold addUnion
  rw [unions]
  cases p.derivedUnions.find? (·.toEnd.name == e.name) <;> rfl

theorem place_withModel (p : Plan) (m : Model) (head tail : End) (isSimple : Bool) :
    (p.withModel m).place head tail isSimple = outcomeWith m (p.place head tail isSimple) := by
  unfold place
  split
  · rfl
  · cases isSimple <;> rfl
  · rfl
  · exact addUnion_withModel p m head
  · rfl

theorem andThen_withModel {r s : Plan × Option Fault} {f : Plan → Plan × Option Fault}
    (hr : s = outcomeWith m r) (hf : ∀ q : Plan, f (q.withModel m) = outcomeWith m (f q)) :
    andThen s f = outcomeWith m (andThen r f) := by
  obtain ⟨q, _ | e⟩ := r
  · rw [hr]
    exact hf q
  · rw [hr]
    rfl

theorem addEnds_withModel (p : Plan) (m : Model) (c : Classified) :
    (p.withModel m).addEnds c = outcomeWith m (p.addEnds c) :=
  andThen_withModel (noteTags_withModel p m c.first) fun q =>
  andThen_withModel (noteTags_withModel q m c.second) fun q =>
  andThen_withModel (place_withModel q m c.first c.second c.firstIsSimple) fun q =>
  andThen_withModel (place_withModel q m c.second c.first c.secondIsSimple) fun _ => rfl

/-! ## Steps that read the model -/

theorem addAssociation_withModel (h : p.model.Agrees m) (scope : List Class)
    (simpleAttribute : String) (policy : Policy) (a : Association) :
    (p.withModel m).addAssociation scope simpleAttribute policy a =
      outcomeWith m (p.addAssociation scope simpleAttribute policy a) := by
  have classified (ends : End × End) : Classified.ofEnds m simpleAttribute policy ends =
      Classified.ofEnds p.model simpleAttribute policy ends := by
    simp only [Classified.ofEnds, h.hasStereotype]
  have ends : (p.withModel m).model.endsOf scope a = p.model.endsOf scope a :=
    congrFun (congrFun h.endsOf scope) a
  unfold addAssociation
  rw [ends]
  split
  · rfl
  · rename_i ends _
    change (p.withModel m).addEnds (.ofEnds m simpleAttribute policy ends) = _
    rw [classified]
    exact addEnds_withModel p m _

theorem addAssociations_withModel (h : p.model.Agrees m) (scope : List Class)
    (simpleAttribute : String) (policy : Policy) (as : List Association) :
    addAssociations scope simpleAttribute policy (p.withModel m) as =
      outcomeWith m (addAssociations scope simpleAttribute policy p as) := by
  induction as generalizing p with
  | nil => rfl
  | cons a as ih =>
    have kept := continues_addAssociation scope simpleAttribute policy p a
    rw [addAssociations, addAssociations, addAssociation_withModel h]
    generalize p.addAssociation scope simpleAttribute policy a = r at kept ⊢
    obtain ⟨q, _ | e⟩ := r
    · rw [← kept.model] at h
      exact ih h
    · rfl

theorem begin_congr {m m' : Model} (h : m.Agrees m') (cv : Conventions) (policy : Policy)
    (journal : Journal) :
    Plan.begin m' cv policy journal =
      (Plan.begin m cv policy journal).withModel m'.listLiterals := by
  have listed := h.listLiterals
  simp only [begin, withModel, listed.withoutStereotype, listed.withoutMetaclasses,
    listed.attributesOf, listed.classes, listed.enumerations]

theorem finish_withModel (h : p.model.Agrees m) (policy : Policy) :
    (p.withModel m).finish policy = (p.finish policy).withModel m := by
  simp only [finish, collectUnions, derivedAttributes, classOperations, withModel, h.attributesOf,
    h.operation?]

end Plan

/-! ## Graphs -/

namespace Graph.Reorders

variable {g g' : Graph}

theorem propagation_eq (h : g.Reorders g') (cv : Conventions) :
    g'.propagation cv = g.propagation cv := by
  have linked := (Model.agrees_ofGraph h cv).linkClasses
  rw [propagation, propagation, linked.unlinked, linked.propagate]

theorem agrees_settled (h : g.Reorders g') (cv : Conventions) :
    (g.settled cv).Agrees (g'.settled cv) := by
  have linked := (Model.agrees_ofGraph h cv).linkClasses
  have handed := linked.withStereotypes (g.propagation cv).stereotypes
  nth_rewrite 2 [← h.propagation_eq cv] at handed
  exact handed

theorem associated_eq (h : g.Reorders g') (policy : Policy) (cv : Conventions) :
    g'.associated policy cv =
      Plan.outcomeWith (g'.settled cv).listLiterals (g.associated policy cv) := by
  have settled := h.agrees_settled cv
  have begun : g'.begun policy cv =
      (g.begun policy cv).withModel (g'.settled cv).listLiterals := by
    rw [Graph.begun, h.propagation_eq cv]
    exact Plan.begin_congr settled cv policy _
  rw [associated, begun, settled.withoutMetaclasses, settled.classes, settled.associations]
  exact Plan.addAssociations_withModel settled.listLiterals _ _ _ _

end Graph.Reorders

/-- Moving elements of a graph around, with classes, generalizations and associations in order among
themselves, leads to the same fault or to none again, and to the same plan over a model that
agrees. -/
theorem resolve_of_reorders {g g' : Graph} (h : g.Reorders g') (policy : Policy)
    (cv : Conventions) :
    let r := resolve g policy cv
    let r' := resolve g' policy cv
    r'.fault? = r.fault? ∧ r'.plan.withModel r.plan.model = r.plan ∧
      r.plan.model.Agrees r'.plan.model := by
  intro r r'
  have settled := h.agrees_settled cv
  have kept : (g.associated policy cv).1.model = (g.settled cv).listLiterals :=
    (g.continues_associated policy cv).model
  have agrees : (g.associated policy cv).1.model.Agrees (g'.settled cv).listLiterals := by
    rw [kept]
    exact settled.listLiterals
  simp only [r, r', resolve_eq, h.propagation_eq cv, h.associated_eq policy cv]
  split
  · exact ⟨rfl, rfl, settled⟩
  · generalize g.associated policy cv = a at agrees ⊢
    obtain ⟨p, _ | e⟩ := a
    · have finished := Plan.finish_withModel agrees policy
      simp only [Plan.outcomeWith, finished]
      cases cv.strict with
      | false => exact ⟨rfl, rfl, agrees⟩
      | true => exact ⟨rfl, rfl, agrees⟩
    · exact ⟨rfl, rfl, agrees⟩

/-- The bookshelf with its properties and instances before the classes that they belong to. -/
def scatteredBookshelf : Graph where
  elements :=
    [⟨"covered", "Property", [("type", .ref "book")]⟩,
     ⟨"place", "Property",
       [("name", .scalar "place"), ("class_", .ref "book"), ("type", .ref "shelf"),
        ("isDerived", .scalar "1")]⟩,
     ⟨"holding", "Association", [("memberEnd", .refList ["books", "place"])]⟩,
     ⟨"applied", "InstanceSpecification", [("classifier", .ref "stereotype")]⟩,
     ⟨"shelf", "Class", [("name", .scalar "Shelf")]⟩,
     ⟨"cover", "Property",
       [("name", .scalar "cover"), ("class_", .ref "book"), ("type", .ref "color")]⟩,
     ⟨"book", "Class", [("name", .scalar "Book")]⟩,
     ⟨"coloring", "Association", [("memberEnd", .refList ["cover", "covered"])]⟩,
     ⟨"color", "Class", [("name", .scalar "Color"), ("appliedStereotype", .ref "applied")]⟩,
     ⟨"books", "Property",
       [("name", .scalar "books"), ("class_", .ref "shelf"), ("type", .ref "book")]⟩,
     ⟨"stereotype", "Stereotype", [("name", .scalar "SimpleAttribute")]⟩]
  ids_nodup := by decide
  ids_ne := by decide

theorem resolve_of_reorders_bookshelf :
    bookshelf.Reorders scatteredBookshelf ∧
    (resolve scatteredBookshelf .none {}).fault? = none ∧
    (resolve scatteredBookshelf .none {}).plan.ends.map (fun e => (e.property, e.role)) =
      [("books", .plain), ("place", .derivedUnion), ("cover", .simpleAttribute),
       ("covered", .nonNavigable)] ∧
    (resolve scatteredBookshelf .none {}).plan.attributes =
      (resolve bookshelf .none {}).plan.attributes := by
  have moved : bookshelf.Reorders scatteredBookshelf :=
    ⟨by decide +kernel, by decide +kernel⟩
  obtain ⟨fault, plan, -⟩ := resolve_of_reorders moved .none {}
  have ends : (resolve scatteredBookshelf .none {}).plan.ends =
      (resolve bookshelf .none {}).plan.ends := congrArg (fun p => p.ends) plan
  have attributes := congrArg Plan.attributes plan
  refine ⟨moved, fault.trans (by decide +kernel), ?_, attributes⟩
  rw [ends]
  decide +kernel

end ModelCompiler
