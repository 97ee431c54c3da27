import ModelCompiler.Proofs.Plan.Resolution

/-!
# Every end is listed under its role

An accepted association has two seats, and the end in each of them is put into one list of the
plan, the one that its role names, or into none.  Main statement: the lists of a plan are the ends
of all accepted associations, in document order, filtered by their roles.

The list of all ends and the lists by role grow at different moments of an association, and a fault
may come in between, so the run is followed by a relation `Plan.Gains` between two plans that says
what each list has gained.
-/

namespace ModelCompiler

/-- The two places at an association. -/
inductive Side where
  | first
  | second
deriving DecidableEq, Repr

/-- An end in its place at an accepted association, with the end across from it and the place of the
simple end, if the association has one. Seats are told apart by where they stand in a list, so one
property may take several. -/
structure Seat where
  side : Side
  head : End
  tail : End
  simple : Option Side
deriving DecidableEq, Repr

namespace Seat

/-- Whether the end in the seat is the one that becomes an attribute. -/
def isAttribute (s : Seat) : Bool := s.head.role = .simpleAttribute ∧ s.simple = some s.side

end Seat

namespace Model

/-- The place of the last of two ends whose type carries a stereotype. -/
def simpleSide? (m : Model) (stereotype : String) (ends : End × End) : Option Side :=
  (([(.first, ends.1), (.second, ends.2)] : List (Side × End)).filter fun s =>
    m.hasStereotype s.2.type.id stereotype).getLast?.map (·.1)

/-- The seats of two ends, in their roles. -/
def seatsOf (m : Model) (stereotype : String) (policy : Policy) (ends : End × End) : List Seat :=
  let simple := m.simpleSide? stereotype ends
  let inRole (e : End) : End := { e with role := e.roleBy simple.isSome policy.derives }
  [{ side := .first, head := inRole ends.1, tail := inRole ends.2, simple },
   { side := .second, head := inRole ends.2, tail := inRole ends.1, simple }]

/-- The seats of an association, which has none if it is not accepted. -/
def seats (m : Model) (stereotype : String) (policy : Policy) (a : Association) : List Seat :=
  match m.endsOf (m.withoutMetaclasses m.classes) a with
  | .error _ => []
  | .ok ends => m.seatsOf stereotype policy ends

/-- The seats of all accepted associations, in document order. -/
def allSeats (m : Model) (stereotype : String) (policy : Policy) : List Seat :=
  m.associations.flatMap (m.seats stereotype policy)

end Model

namespace Plan

/-- `q` is `p` with `ends` after its ends and with what `seats` call for after its other lists. -/
structure Gains (p : Plan) (seats : List Seat) (ends : List End) (q : Plan) : Prop where
  model : q.model = p.model
  classes : q.classes = p.classes
  enumerations : q.enumerations = p.enumerations
  ends : q.ends = p.ends ++ ends
  associations : q.associations =
    p.associations ++ (seats.filter (·.head.role = .plain)).map fun s => (s.head, s.tail)
  redefinitions : q.redefinitions =
    p.redefinitions ++ (seats.filter (·.head.role = .redefinition)).map (·.head)
  derivedUnions : q.derivedUnions =
    p.derivedUnions ++ (seats.filter (·.head.role = .derivedUnion)).map fun s => { toEnd := s.head }
  attributes : q.attributes =
    p.attributes ++ (seats.filter (·.isAttribute)).map fun s => simpleAttribute s.head s.tail

namespace Gains

variable {p q r : Plan} {s t : List Seat} {e f : List End}

theorem refl (p : Plan) : p.Gains [] [] p := by
  constructor <;> simp

theorem trans (h : p.Gains s e q) (k : q.Gains t f r) : p.Gains (s ++ t) (e ++ f) r where
  model := k.model.trans h.model
  classes := k.classes.trans h.classes
  enumerations := k.enumerations.trans h.enumerations
  ends := by rw [k.ends, h.ends, List.append_assoc]
  associations := by rw [k.associations, h.associations]; simp
  redefinitions := by rw [k.redefinitions, h.redefinitions]; simp
  derivedUnions := by rw [k.derivedUnions, h.derivedUnions]; simp
  attributes := by rw [k.attributes, h.attributes]; simp

end Gains

/-! ## One association -/

theorem andThen_eq_none {r : Plan × Option Fault} {f : Plan → Plan × Option Fault} {q : Plan} :
    andThen r f = (q, none) ↔ ∃ p, r = (p, none) ∧ f p = (q, none) := by
  obtain ⟨p, _ | e⟩ := r
  · simp [andThen]
  · simp [andThen]

theorem gains_noteTags {p q : Plan} {e : End} (h : p.noteTags e = (q, none)) :
    p.Gains [] [] q := by
  unfold noteTags at h
  split at h
  · cases h
    exact .refl p
  · split at h
    · cases h
    · cases h
      constructor <;> simp

theorem gains_addUnion {p q : Plan} {s : Seat} (hs : s.head.role = .derivedUnion)
    (h : p.addUnion s.head = (q, none)) : p.Gains [s] [] q := by
  unfold addUnion at h
  split at h
  · cases h
  · cases h
    constructor <;> simp [hs, Seat.isAttribute]

/-- An end gets into the list of its role and into no other. -/
theorem gains_place {p q : Plan} (s : Seat)
    (h : p.place s.head s.tail (s.simple = some s.side) = (q, none)) : p.Gains [s] [] q := by
  unfold place at h
  split at h
  · rename_i hs
    cases h
    constructor <;> simp [hs, Seat.isAttribute]
  · rename_i hs
    by_cases ha : s.simple = some s.side
    · simp only [ha, decide_true, if_true] at h
      cases h
      constructor <;> simp [hs, ha, addSimple, Seat.isAttribute]
    · simp only [ha, decide_false, Bool.false_eq_true, if_false] at h
      cases h
      constructor <;> simp [hs, ha, Seat.isAttribute]
  · rename_i hs
    cases h
    constructor <;> simp [hs, addRedefinition, Seat.isAttribute]
  · rename_i hs
    exact gains_addUnion hs h
  · rename_i hs
    cases h
    constructor <;> simp [hs, Seat.isAttribute]

end Plan

/-- The classified ends of an association sit in its seats. -/
theorem Classified.ofEnds_eq (m : Model) (stereotype : String) (policy : Policy)
    (ends : End × End) :
    ∃ s t, m.seatsOf stereotype policy ends = [s, t] ∧
      Classified.ofEnds m stereotype policy ends =
        { first := s.head
          second := t.head
          firstIsSimple := s.simple = some s.side
          secondIsSimple := t.simple = some t.side } ∧
      s.tail = t.head ∧ t.tail = s.head := by
  refine ⟨_, _, rfl, ?_, rfl, rfl⟩
  cases h₁ : m.hasStereotype ends.1.type.id stereotype <;>
    cases h₂ : m.hasStereotype ends.2.type.id stereotype <;>
    simp [Classified.ofEnds, Model.simpleSide?, h₁, h₂]

namespace Plan

/-- An accepted association adds its ends, and each of them to the list of its role. -/
theorem gains_addEnds {p q : Plan} {m : Model} {stereotype : String} {policy : Policy}
    {ends : End × End}
    (h : p.addEnds (.ofEnds m stereotype policy ends) = (q, none)) :
    p.Gains (m.seatsOf stereotype policy ends)
      ((m.seatsOf stereotype policy ends).map (·.head)) q := by
  obtain ⟨s, t, hst, hc, hs, ht⟩ := Classified.ofEnds_eq m stereotype policy ends
  rw [hc] at h
  simp only [addEnds, andThen_eq_none] at h
  obtain ⟨p₁, h₁, p₂, h₂, p₃, h₃, p₄, h₄, h₅⟩ := h
  rw [← hs] at h₃
  rw [← ht] at h₄
  have tagged := (gains_noteTags h₁).trans (gains_noteTags h₂)
  have placed := (gains_place s h₃).trans (gains_place t h₄)
  have listed : p₄.Gains [] [s.head, t.head] q := by
    cases h₅
    constructor <;> simp
  rw [hst]
  exact (tagged.trans placed).trans listed

theorem gains_addAssociation {p q : Plan} {stereotype : String} {policy : Policy}
    {a : Association}
    (h : p.addAssociation (p.model.withoutMetaclasses p.model.classes) stereotype policy a =
      (q, none)) :
    p.Gains (p.model.seats stereotype policy a)
      ((p.model.seats stereotype policy a).map (·.head)) q := by
  unfold addAssociation at h
  cases he : p.model.endsOf (p.model.withoutMetaclasses p.model.classes) a with
  | error d =>
    have none : p.model.seats stereotype policy a = [] := by rw [Model.seats, he]
    rw [he] at h
    cases h
    rw [none]
    constructor <;> simp
  | ok ends =>
    have two : p.model.seats stereotype policy a = p.model.seatsOf stereotype policy ends := by
      rw [Model.seats, he]
    rw [he] at h
    rw [two]
    exact gains_addEnds h

/-! ## All associations -/

/-- What a run over associations adds, whatever the plan that it starts from. -/
theorem gains_addAssociations {stereotype : String} {policy : Policy} {as : List Association}
    {p q : Plan}
    (h : addAssociations (p.model.withoutMetaclasses p.model.classes) stereotype policy p as =
      (q, none)) :
    p.Gains (as.flatMap (p.model.seats stereotype policy))
      ((as.flatMap (p.model.seats stereotype policy)).map (·.head)) q := by
  induction as generalizing p with
  | nil =>
    cases h
    exact .refl _
  | cons a as ih =>
    rw [addAssociations, andThen_eq_none] at h
    obtain ⟨p₁, h₁, h₂⟩ := h
    have first := gains_addAssociation h₁
    rw [← first.model] at h₂
    have rest := ih h₂
    rw [first.model] at rest
    rw [List.flatMap_cons, List.map_append]
    exact first.trans rest

/-! ## Plans that were begun and have gained -/

/-- Of attributes that come from one source, the test for a source keeps all or none. -/
theorem filter_source_eq {as : List Attribute} {s : AttributeSource} (h : ∀ a ∈ as, a.source = s)
    (t : AttributeSource) : as.filter (·.source = t) = if s = t then as else [] := by
  split
  · rename_i same
    exact List.filter_eq_self.2 fun a ha => decide_eq_true ((h a ha).trans same)
  · rename_i other
    refine List.filter_eq_nil_iff.2 fun a ha hs => other ?_
    rw [← h a ha]
    exact of_decide_eq_true hs

namespace Gains

variable {m : Model} {cv : Conventions} {policy : Policy} {told : Journal} {seats : List Seat}
  {q : Plan}

theorem ends_eq (h : (begin m cv policy told).Gains seats (seats.map (·.head)) q) :
    q.ends = seats.map (·.head) := h.ends

theorem associations_eq (h : (begin m cv policy told).Gains seats (seats.map (·.head)) q) :
    q.associations = (seats.filter (·.head.role = .plain)).map fun s => (s.head, s.tail) :=
  h.associations

theorem heads_eq_filter (h : (begin m cv policy told).Gains seats (seats.map (·.head)) q) :
    q.associations.map (·.1) = q.ends.filter (·.role = .plain) := by
  rw [h.ends_eq, h.associations_eq, List.filter_map, List.map_map]
  rfl

theorem redefinitions_eq_filter (h : (begin m cv policy told).Gains seats (seats.map (·.head)) q) :
    q.redefinitions = q.ends.filter (·.role = .redefinition) := by
  rw [h.ends_eq, List.filter_map]
  exact h.redefinitions

theorem unions_eq_filter (h : (begin m cv policy told).Gains seats (seats.map (·.head)) q) :
    q.derivedUnions.map (·.toEnd) = q.ends.filter (·.role = .derivedUnion) := by
  rw [h.ends_eq, List.filter_map, h.derivedUnions, List.map_append, List.map_map]
  rfl

end Gains

end Plan

/-- A plan without a fault has gained, since its beginning, what all seats of its model call for. -/
theorem resolve_gains {g : Graph} {policy : Policy} {cv : Conventions}
    (h : (resolve g policy cv).fault? = none) :
    ∃ (told journal : Journal) (q : Plan),
      (Plan.begin (g.settled cv) cv policy told).Gains
        (q.model.allSeats cv.simpleAttribute policy)
        ((q.model.allSeats cv.simpleAttribute policy).map (·.head)) q ∧
      (resolve g policy cv).plan = { q.finish policy with journal } := by
  obtain ⟨q, hq, hp⟩ := resolve_of_no_fault h
  have gained := Plan.gains_addAssociations (p := g.begun policy cv) hq
  refine ⟨(g.propagation cv).journal, (q.finish policy).journal, q, ?_, hp⟩
  rw [gained.model]
  exact gained

/-- The enumerations of a plan are those of its model. -/
theorem enumerations_resolve {g : Graph} {policy : Policy} {cv : Conventions}
    (h : (resolve g policy cv).fault? = none) :
    (resolve g policy cv).plan.enumerations = (g.settled cv).listLiterals.enumerations := by
  obtain ⟨told, journal, q, hq, hp⟩ := resolve_gains h
  rw [hp]
  exact hq.enumerations

/-- A shelf with books, each of which has a color: a plain end, a derived one, one that becomes an
attribute and one that cannot be navigated to. -/
def bookshelf : Graph where
  elements :=
    [⟨"shelf", "Class", [("name", .scalar "Shelf")]⟩,
     ⟨"book", "Class", [("name", .scalar "Book")]⟩,
     ⟨"color", "Class", [("name", .scalar "Color"), ("appliedStereotype", .ref "applied")]⟩,
     ⟨"applied", "InstanceSpecification", [("classifier", .ref "stereotype")]⟩,
     ⟨"stereotype", "Stereotype", [("name", .scalar "SimpleAttribute")]⟩,
     ⟨"books", "Property",
       [("name", .scalar "books"), ("class_", .ref "shelf"), ("type", .ref "book")]⟩,
     ⟨"place", "Property",
       [("name", .scalar "place"), ("class_", .ref "book"), ("type", .ref "shelf"),
        ("isDerived", .scalar "1")]⟩,
     ⟨"holding", "Association", [("memberEnd", .refList ["books", "place"])]⟩,
     ⟨"cover", "Property",
       [("name", .scalar "cover"), ("class_", .ref "book"), ("type", .ref "color")]⟩,
     ⟨"covered", "Property", [("type", .ref "book")]⟩,
     ⟨"coloring", "Association", [("memberEnd", .refList ["cover", "covered"])]⟩]
  ids_nodup := by decide
  ids_ne := by decide

end ModelCompiler
