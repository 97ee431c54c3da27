import ModelCompiler.Proofs.Plan.Acceptance

/-!
# The first faulty association

An association is faulty if one of its ends can be navigated to but has no name, or is a derived
union of a name that a derived union before it has.  Main statement: associations are added up to
the first faulty one, and the fault is that of an end without a name if that association has one,
whichever of its ends is the first; without a faulty association there is neither fault, and the
derived unions have distinct names.

The tags of both ends are noted before either is put into its place, which is why an end without a
name comes before a repeated union.
-/

namespace ModelCompiler

namespace Seat

/-- The end in the seat can be navigated to but has no name. -/
def Unnamed (s : Seat) : Prop := s.head.navigable ∧ s.head.name = ""

/-- Two seats are taken by derived unions of one name. -/
def Repeats (s t : Seat) : Prop :=
  s.head.role = .derivedUnion ∧ t.head.role = .derivedUnion ∧ s.head.name = t.head.name

instance (s : Seat) : Decidable s.Unnamed := inferInstanceAs (Decidable (_ ∧ _))

instance (s t : Seat) : Decidable (s.Repeats t) := inferInstanceAs (Decidable (_ ∧ _ ∧ _))

/-- The ends of the derived unions among some seats. -/
def unions (seats : List Seat) : List End :=
  (seats.filter (·.head.role = .derivedUnion)).map (·.head)

theorem mem_unions {seats : List Seat} {e : End} :
    e ∈ unions seats ↔ ∃ s ∈ seats, s.head.role = .derivedUnion ∧ s.head = e := by
  simp [unions, and_assoc]

@[simp] theorem unions_append (seats seats' : List Seat) :
    unions (seats ++ seats') = unions seats ++ unions seats' := by
  simp [unions]

theorem unions_singleton (s : Seat) :
    unions [s] = if s.head.role = .derivedUnion then [s.head] else [] := by
  by_cases h : s.head.role = .derivedUnion <;> simp [unions, h]

end Seat

/-- Among some seats, with others before them, is an end without a name, or a union of a name that
a union before it has. -/
def Faulty (earlier seats : List Seat) : Prop :=
  (∃ s ∈ seats, s.Unnamed) ∨
    ∃ k : Fin seats.length, ∃ t ∈ earlier ++ seats.take k, seats[k].Repeats t

instance (earlier seats : List Seat) : Decidable (Faulty earlier seats) :=
  inferInstanceAs (Decidable (_ ∨ _))

/-- A fault that is to be found among some seats, with others before them. -/
inductive Accuses (earlier seats : List Seat) : Fault → Prop where
  | unnamed {s : Seat} (hs : s ∈ seats) (h : s.Unnamed) :
    Accuses earlier seats (.unnamedEnd s.head.property s.head.className)
  | repeated {k : Fin seats.length} {t : Seat} (named : ∀ s ∈ seats, ¬s.Unnamed)
    (ht : t ∈ earlier ++ seats.take k) (h : seats[k].Repeats t) :
    Accuses earlier seats (.duplicateUnion seats[k].head.qualified t.head.className)

theorem Accuses.faulty {earlier seats : List Seat} {e : Fault} (h : Accuses earlier seats e) :
    Faulty earlier seats := by
  cases h with
  | unnamed hs h => exact .inl ⟨_, hs, h⟩
  | repeated _ ht h => exact .inr ⟨_, _, ht, h⟩

theorem not_faulty_pair {earlier : List Seat} {s t : Seat} (named : ∀ x ∈ [s, t], ¬x.Unnamed)
    (fresh_s : ∀ u ∈ earlier, ¬s.Repeats u) (fresh_t : ∀ u ∈ earlier ++ [s], ¬t.Repeats u) :
    ¬Faulty earlier [s, t] := by
  rintro (⟨x, hx, unnamed⟩ | ⟨⟨_ | _ | k, hk⟩, u, hu, repeats⟩)
  · exact named x hx unnamed
  · exact fresh_s u (by simpa using hu) repeats
  · exact fresh_t u (by simpa using hu) repeats
  · rw [List.length_cons, List.length_singleton] at hk
    omega

namespace Plan

/-- The derived unions of a plan are those of some seats, and there is one for a name. -/
structure Unites (p : Plan) (seats : List Seat) : Prop where
  ends : p.derivedUnions.map (·.toEnd) = Seat.unions seats
  distinct : ((Seat.unions seats).map (·.name)).Nodup

variable {p q : Plan} {earlier seats : List Seat} {ends : List End}

theorem Unites.names (h : p.Unites seats) : (p.derivedUnions.map (·.toEnd.name)).Nodup := by
  have distinct := h.distinct
  rw [← h.ends, List.map_map] at distinct
  exact distinct

/-- What gains no union has the unions that it had. -/
theorem Unites.gains (h : p.Unites earlier) (gained : p.Gains seats ends q)
    (none : Seat.unions seats = []) : q.Unites (earlier ++ seats) where
  ends := by
    have added : (seats.filter (·.head.role = .derivedUnion)) = [] := List.map_eq_nil_iff.1 none
    rw [gained.derivedUnions, added, Seat.unions_append, none, List.map_append, h.ends]
    rfl
  distinct := by
    rw [Seat.unions_append, none, List.append_nil]
    exact h.distinct

/-! ## One association -/

theorem andThen_of_fault {r : Plan × Option Fault} {e : Fault} (h : r.2 = some e)
    (f : Plan → Plan × Option Fault) : (andThen r f).2 = some e := by
  obtain ⟨p, _ | e'⟩ := r
  · cases h
  · exact h

theorem noteTags_cases (h : p.Unites earlier) (s : Seat) :
    (s.Unnamed ∧
      (p.noteTags s.head).2 = some (.unnamedEnd s.head.property s.head.className)) ∨
    (¬s.Unnamed ∧ ∃ q, p.noteTags s.head = (q, none) ∧ q.Unites earlier) := by
  unfold noteTags Seat.Unnamed
  cases navigable : s.head.navigable with
  | false => exact .inr ⟨by simp, p, by simp, h⟩
  | true =>
    by_cases unnamed : s.head.name = ""
    · exact .inl ⟨⟨rfl, unnamed⟩, by simp [unnamed]⟩
    · exact .inr ⟨by simp [unnamed], _, (if_neg (by decide)).trans (if_neg unnamed), h.ends,
        h.distinct⟩

/-- A union is added unless it repeats one. -/
theorem addUnion_cases (h : p.Unites earlier) {s : Seat} (hs : s.head.role = .derivedUnion) :
    (∃ t ∈ earlier, s.Repeats t ∧
      (p.addUnion s.head).2 = some (.duplicateUnion s.head.qualified t.head.className)) ∨
    ((∀ t ∈ earlier, ¬s.Repeats t) ∧
      ∃ q, p.addUnion s.head = (q, none) ∧ q.Unites (earlier ++ [s])) := by
  unfold addUnion
  cases found : p.derivedUnions.find? (·.toEnd.name == s.head.name) with
  | some u =>
    have listed : u.toEnd ∈ Seat.unions earlier := by
      rw [← h.ends]
      exact List.mem_map_of_mem (List.mem_of_find?_eq_some found)
    obtain ⟨t, ht, role, head⟩ := Seat.mem_unions.1 listed
    have name : u.toEnd.name = s.head.name := by simpa using List.find?_some found
    exact .inl ⟨t, ht, ⟨hs, role, by rw [head, name]⟩, by rw [head]⟩
  | none =>
    have fresh : s.head.name ∉ (Seat.unions earlier).map (·.name) := by
      rw [← h.ends, List.map_map]
      intro listed
      obtain ⟨u, hu, name⟩ := List.mem_map.1 listed
      exact List.find?_eq_none.1 found u hu (beq_iff_eq.2 name)
    refine .inr ⟨?_, _, rfl, ?_, ?_⟩
    · rintro t ht ⟨-, role, name⟩
      rw [name] at fresh
      exact fresh (List.mem_map_of_mem (Seat.mem_unions.2 ⟨t, ht, role, rfl⟩))
    · simp [Seat.unions_singleton, hs, h.ends]
    · rw [Seat.unions_append, Seat.unions_singleton, if_pos hs, List.map_append]
      exact List.Nodup.append h.distinct (by simp) (by simpa using fresh)

/-- An end gets into its place unless it is a union that repeats one. -/
theorem place_cases (h : p.Unites earlier) (s : Seat) :
    let placed := p.place s.head s.tail (s.simple = some s.side)
    (∃ t ∈ earlier, s.Repeats t ∧
      placed.2 = some (.duplicateUnion s.head.qualified t.head.className)) ∨
    ((∀ t ∈ earlier, ¬s.Repeats t) ∧ ∃ q, placed = (q, none) ∧ q.Unites (earlier ++ [s])) := by
  intro placed
  by_cases hs : s.head.role = .derivedUnion
  · have union : placed = p.addUnion s.head := by
      change p.place _ _ _ = _
      rw [place, hs]
    rw [union]
    exact addUnion_cases h hs
  · have done : ∃ q, placed = (q, none) := by
      change ∃ q, p.place _ _ _ = _
      unfold place
      split
      · exact ⟨_, rfl⟩
      · exact ⟨_, rfl⟩
      · exact ⟨_, rfl⟩
      · exact absurd ‹_› hs
      · exact ⟨_, rfl⟩
    obtain ⟨q, hq⟩ := done
    have none : Seat.unions [s] = [] := by rw [Seat.unions_singleton, if_neg hs]
    exact .inr ⟨fun t _ repeats => hs repeats.1, q, hq, h.gains (gains_place s hq) none⟩

theorem addEnds_cases (h : p.Unites earlier) (m : Model) (stereotype : String) (policy : Policy)
    (ends : End × End) :
    let added := p.addEnds (.ofEnds m stereotype policy ends)
    (∃ e, added.2 = some e ∧ Accuses earlier (m.seatsOf stereotype policy ends) e) ∨
    (¬Faulty earlier (m.seatsOf stereotype policy ends) ∧
      ∃ q, added = (q, none) ∧ q.Unites (earlier ++ m.seatsOf stereotype policy ends)) := by
  intro added
  obtain ⟨s, t, two, classified, across_s, across_t⟩ :=
    Classified.ofEnds_eq m stereotype policy ends
  have steps : added = andThen (p.noteTags s.head) fun p => andThen (p.noteTags t.head) fun p =>
      andThen (p.place s.head s.tail (s.simple = some s.side)) fun p =>
      andThen (p.place t.head t.tail (t.simple = some t.side)) fun p =>
      ({ p with ends := p.ends ++ [s.head, t.head] }, none) := by
    change p.addEnds _ = _
    rw [classified, across_s, across_t]
    rfl
  rw [two, steps]
  rcases noteTags_cases h s with ⟨unnamed, fault⟩ | ⟨named_s, p₁, noted₁, h₁⟩
  · exact .inl ⟨_, andThen_of_fault fault _, .unnamed (by simp) unnamed⟩
  rw [noted₁]
  rcases noteTags_cases h₁ t with ⟨unnamed, fault⟩ | ⟨named_t, p₂, noted₂, h₂⟩
  · exact .inl ⟨_, andThen_of_fault fault _, .unnamed (by simp) unnamed⟩
  have named : ∀ x ∈ [s, t], ¬x.Unnamed := by simp [named_s, named_t]
  simp only [andThen, noted₂]
  rcases place_cases h₂ s with ⟨u, hu, repeats, fault⟩ | ⟨fresh_s, p₃, placed₃, h₃⟩
  · have accused : Accuses earlier [s, t]
        (.duplicateUnion s.head.qualified u.head.className) :=
      .repeated (k := ⟨0, by simp⟩) named (by simpa using hu) repeats
    exact .inl ⟨_, andThen_of_fault fault _, accused⟩
  simp only [placed₃]
  rcases place_cases h₃ t with ⟨u, hu, repeats, fault⟩ | ⟨fresh_t, p₄, placed₄, h₄⟩
  · have accused : Accuses earlier [s, t]
        (.duplicateUnion t.head.qualified u.head.className) :=
      .repeated (k := ⟨1, by simp⟩) named (by simpa using hu) repeats
    exact .inl ⟨_, andThen_of_fault fault _, accused⟩
  simp only [placed₄]
  refine .inr ⟨not_faulty_pair named fresh_s fresh_t, _, rfl, ?_, ?_⟩
  · simpa using h₄.ends
  · simpa using h₄.distinct

/-- An association is added unless it is faulty. -/
theorem addAssociation_cases (h : p.Unites earlier) (stereotype : String) (policy : Policy)
    (a : Association) :
    let added := p.addAssociation (p.model.withoutMetaclasses p.model.classes) stereotype policy a
    let seats := p.model.seats stereotype policy a
    (∃ e, added.2 = some e ∧ Accuses earlier seats e) ∨
    (¬Faulty earlier seats ∧ ∃ q, added = (q, none) ∧ q.Unites (earlier ++ seats)) := by
  intro added seats
  cases accepted : p.model.endsOf (p.model.withoutMetaclasses p.model.classes) a with
  | error d =>
    have none : seats = [] := by
      change p.model.seats stereotype policy a = []
      rw [Model.seats, accepted]
    have warned : added = ({ p with journal := p.journal.add d }, Option.none) := by
      change p.addAssociation _ _ _ _ = _
      rw [addAssociation, accepted]
    rw [none, warned, List.append_nil]
    refine .inr ⟨?_, _, rfl, h.ends, h.distinct⟩
    rintro (⟨s, hs, -⟩ | ⟨k, -⟩)
    · cases hs
    · exact k.elim0
  | ok ends =>
    have two : seats = p.model.seatsOf stereotype policy ends := by
      change p.model.seats stereotype policy a = _
      rw [Model.seats, accepted]
    have both : added = p.addEnds (.ofEnds p.model stereotype policy ends) := by
      change p.addAssociation _ _ _ _ = _
      rw [addAssociation, accepted]
    rw [two, both]
    exact addEnds_cases h p.model stereotype policy ends

end Plan

/-! ## All associations -/

namespace Model

/-- The association of a number is faulty. -/
def FaultyAt (m : Model) (stereotype : String) (policy : Policy) (i : Nat) : Prop :=
  ∃ a ∈ m.associations[i]?,
    Faulty ((m.associations.take i).flatMap (m.seats stereotype policy))
      (m.seats stereotype policy a)

instance (m : Model) (stereotype : String) (policy : Policy) (i : Nat) :
    Decidable (m.FaultyAt stereotype policy i) :=
  inferInstanceAs (Decidable (∃ a ∈ m.associations[i]?, _))

variable {m : Model} {stereotype : String} {policy : Policy} {before as : List Association}
  {a : Association}

theorem FaultyAt.lt {i : Nat} (h : m.FaultyAt stereotype policy i) :
    i < m.associations.length := by
  obtain ⟨a, ha, -⟩ := h
  exact (List.getElem?_eq_some_iff.1 ha).1

theorem faultyAt_length (h : m.associations = before ++ a :: as) :
    m.FaultyAt stereotype policy before.length ↔
      Faulty (before.flatMap (m.seats stereotype policy)) (m.seats stereotype policy a) := by
  simp [FaultyAt, h]

end Model

namespace Plan

/-- Associations are added up to the first faulty one.  The induction is on those that are left,
with the plan that those before them have led to. -/
theorem addAssociations_cases {m : Model} {stereotype : String} {policy : Policy}
    {as before : List Association} {p : Plan} (hm : p.model = m)
    (split : m.associations = before ++ as)
    (h : p.Unites (before.flatMap (m.seats stereotype policy)))
    (sound : ∀ j < before.length, ¬m.FaultyAt stereotype policy j) :
    let added := p.addAssociations (m.withoutMetaclasses m.classes) stereotype policy as
    (∃ i a e, m.associations[i]? = some a ∧ (∀ j < i, ¬m.FaultyAt stereotype policy j) ∧
      added.2 = some e ∧ Accuses ((m.associations.take i).flatMap (m.seats stereotype policy))
        (m.seats stereotype policy a) e) ∨
    ((∀ i, ¬m.FaultyAt stereotype policy i) ∧
      ∃ q, added = (q, none) ∧ q.Unites (m.allSeats stereotype policy)) := by
  induction as generalizing before p with
  | nil =>
    rw [List.append_nil] at split
    refine .inr ⟨fun i faulty => ?_, p, rfl, ?_⟩
    · have small := faulty.lt
      rw [split] at small
      exact sound i small faulty
    · rw [Model.allSeats, split]
      exact h
  | cons a as ih =>
    subst hm
    rw [addAssociations]
    rcases addAssociation_cases h stereotype policy a with ⟨e, fault, accused⟩ | ⟨fine, q, ok, hq⟩
    · refine .inl ⟨before.length, a, e, by simp [split], sound, andThen_of_fault fault _, ?_⟩
      rw [split, List.take_left]
      exact accused
    · have further : ∀ j < (before ++ [a]).length, ¬p.model.FaultyAt stereotype policy j := by
        intro j hj
        rw [List.length_append, List.length_singleton, Nat.lt_succ_iff_lt_or_eq] at hj
        rcases hj with hj | rfl
        · exact sound j hj
        · rwa [Model.faultyAt_length split]
      rw [ok]
      exact ih (gains_addAssociation ok).model (by rw [split, List.append_assoc]; rfl)
        (by simpa using hq) further

end Plan

/-! ## Graphs whose stereotypes can be handed down -/

section Propagated

variable {g : Graph} {policy : Policy} {cv : Conventions} {q : Plan} {e : Fault}

theorem fault?_of_associated (h : (g.propagation cv).cycle = none)
    (fault : (g.associated policy cv).2 = some e) : (resolve g policy cv).fault? = some e := by
  rw [resolve_eq, h]
  obtain ⟨q, hq⟩ : ∃ q, g.associated policy cv = (q, some e) := ⟨_, Prod.ext rfl fault⟩
  simp only [hq]

/-- Only a strict run has a fault after all associations have been added, and the unions stay. -/
theorem resolve_of_associated (h : (g.propagation cv).cycle = none)
    (ok : g.associated policy cv = (q, none)) :
    (∀ e, (resolve g policy cv).fault? = some e → ∃ report, e = .strict report) ∧
    (resolve g policy cv).plan.derivedUnions.map (·.toEnd) = q.derivedUnions.map (·.toEnd) := by
  rw [resolve_eq, h]
  simp only [ok]
  cases cv.strict with
  | false => exact ⟨fun _ fault => (nomatch fault), q.toEnd_derivedUnions_finish policy⟩
  | true =>
    refine ⟨fun e fault => ?_, q.toEnd_derivedUnions_finish policy⟩
    simp only [if_true, Plan.enforce] at fault
    split at fault
    · cases fault
    · cases fault
      exact ⟨_, rfl⟩

end Propagated

/-- If stereotypes can be handed down, the fault of a graph is that of its first faulty
association.  It is that of an end without a name if the association has one, and that of a
repeated union otherwise.  Without a faulty association there is no fault but that of a strict run,
and the derived unions of the plan have distinct names. -/
theorem first_faulty_association_stops (g : Graph) (policy : Policy) (cv : Conventions)
    (h : (g.propagation cv).cycle = none) :
    let m := (g.begun policy cv).model
    let seats := m.seats cv.simpleAttribute policy
    let faulty := m.FaultyAt cv.simpleAttribute policy
    let r := resolve g policy cv
    m.associations = (g.elements.filter (·.type = "Association")).map .ofElement ∧
    (∀ i a, m.associations[i]? = some a → faulty i → (∀ j < i, ¬faulty j) →
      ((∃ s ∈ seats a, s.Unnamed) → ∃ s ∈ seats a, s.Unnamed ∧
        r.fault? = some (.unnamedEnd s.head.property s.head.className)) ∧
      ((∀ s ∈ seats a, ¬s.Unnamed) → ∃ k : Fin (seats a).length,
        ∃ t ∈ (m.associations.take i).flatMap seats ++ (seats a).take k,
          (seats a)[k].Repeats t ∧
          r.fault? = some (.duplicateUnion (seats a)[k].head.qualified t.head.className))) ∧
    ((∀ i, ¬faulty i) →
      (∀ e, r.fault? = some e → ∃ report, e = .strict report) ∧
      (r.plan.derivedUnions.map (·.toEnd.name)).Nodup) := by
  intro m seats faulty r
  have begun : (g.begun policy cv).Unites ([].flatMap seats) := ⟨rfl, .nil⟩
  have run := Plan.addAssociations_cases (p := g.begun policy cv) (m := m) rfl
    (List.nil_append _).symm begun (by simp)
  change (∃ i a e, _ ∧ _ ∧ (g.associated policy cv).2 = some e ∧ _) ∨
    (_ ∧ ∃ q, g.associated policy cv = (q, none) ∧ _) at run
  refine ⟨Model.associations_ofGraph cv g, ?_⟩
  rcases run with ⟨i, a, e, ha, sound, fault, accused⟩ | ⟨sound, q, ok, united⟩
  · have stops : r.fault? = some e := fault?_of_associated h fault
    have here : faulty i := ⟨a, ha, accused.faulty⟩
    refine ⟨fun j b hb faulty_j sound_j => ?_, fun none => absurd here (none i)⟩
    have same : j = i := Nat.le_antisymm (Nat.not_lt.1 fun less => sound_j i less here)
      (Nat.not_lt.1 fun less => sound j less faulty_j)
    subst same
    obtain rfl : a = b := Option.some.inj (ha.symm.trans hb)
    rw [stops]
    cases accused with
    | unnamed hs unnamed =>
      exact ⟨fun _ => ⟨_, hs, unnamed, rfl⟩, fun named => absurd unnamed (named _ hs)⟩
    | repeated named ht repeats =>
      exact ⟨fun ⟨s, hs, unnamed⟩ => absurd unnamed (named s hs),
        fun _ => ⟨_, _, ht, repeats, rfl⟩⟩
  · obtain ⟨strict, unions⟩ := resolve_of_associated h ok
    refine ⟨fun i _ _ faulty_i _ => absurd faulty_i (sound i), fun _ => ⟨strict, ?_⟩⟩
    have names : r.plan.derivedUnions.map (·.toEnd.name) =
        q.derivedUnions.map (·.toEnd.name) := by
      have names := congrArg (List.map End.name) unions
      rwa [List.map_map, List.map_map] at names
    rw [names]
    exact united.names

/-- A car with a derived union `parts`, and an association of a second derived union with an end
that leads back. -/
def convoy (union back : String) : Graph where
  elements :=
    [⟨"car", "Class", [("name", .scalar "Car")]⟩,
     ⟨"parts", "Property",
       [("name", .scalar "parts"), ("class_", .ref "car"), ("type", .ref "car"),
        ("isDerived", .scalar "1")]⟩,
     ⟨"whole", "Property", [("type", .ref "car")]⟩,
     ⟨"composition", "Association", [("memberEnd", .refList ["parts", "whole"])]⟩,
     ⟨"union", "Property",
       [("name", .scalar union), ("class_", .ref "car"), ("type", .ref "car"),
        ("isDerived", .scalar "1")]⟩,
     ⟨"back", "Property",
       [("name", .scalar back), ("class_", .ref "car"), ("type", .ref "car")]⟩,
     ⟨"convoy", "Association", [("memberEnd", .refList ["union", "back"])]⟩]
  ids_nodup := (by decide :
    ["car", "parts", "whole", "composition", "union", "back", "convoy"].Nodup)
  ids_ne := by simp

/-- An end without a name counts before a union that is repeated at the end across from it. -/
theorem first_faulty_association_stops_convoy :
    (resolve (convoy "parts" "") .none {}).fault? = some (.unnamedEnd "back" "Car") ∧
    (resolve (convoy "parts" "next") .none {}).fault? = some (.duplicateUnion "Car.parts" "Car") ∧
    ((resolve (convoy "group" "next") .none {}).plan.derivedUnions.map (·.toEnd.name)).Nodup := by
  let m (union back : String) := ((convoy union back).begun .none {}).model
  let seats (union back : String) :=
    (m union back).seats "SimpleAttribute" .none ⟨"convoy", ["union", "back"]⟩
  refine ⟨?_, ?_, ?_⟩
  · obtain ⟨-, first, -⟩ :=
      first_faulty_association_stops (convoy "parts" "") .none {} (by decide +kernel)
    have faulty : (m "parts" "").FaultyAt "SimpleAttribute" .none 1 := by decide +kernel
    have sound : ∀ j < 1, ¬(m "parts" "").FaultyAt "SimpleAttribute" .none j := by decide +kernel
    obtain ⟨s, hs, unnamed, fault⟩ :=
      (first 1 ⟨"convoy", ["union", "back"]⟩ rfl faulty sound).1 (by decide +kernel)
    have only : ∀ s ∈ seats "parts" "", s.Unnamed →
        Fault.unnamedEnd s.head.property s.head.className = .unnamedEnd "back" "Car" := by
      decide +kernel
    rw [fault, only s hs unnamed]
  · obtain ⟨-, first, -⟩ :=
      first_faulty_association_stops (convoy "parts" "next") .none {} (by decide +kernel)
    have faulty : (m "parts" "next").FaultyAt "SimpleAttribute" .none 1 := by decide +kernel
    have sound : ∀ j < 1, ¬(m "parts" "next").FaultyAt "SimpleAttribute" .none j := by
      decide +kernel
    obtain ⟨k, t, ht, repeats, fault⟩ :=
      (first 1 ⟨"convoy", ["union", "back"]⟩ rfl faulty sound).2 (by decide +kernel)
    have only : ∀ k : Fin (seats "parts" "next").length,
        ∀ t ∈ ((m "parts" "next").associations.take 1).flatMap
            ((m "parts" "next").seats "SimpleAttribute" .none) ++ (seats "parts" "next").take k,
          (seats "parts" "next")[k].Repeats t →
            Fault.duplicateUnion (seats "parts" "next")[k].head.qualified t.head.className =
              .duplicateUnion "Car.parts" "Car" := by decide +kernel
    rw [fault]
    exact congrArg some (only k t ht repeats)
  · obtain ⟨-, -, fine⟩ :=
      first_faulty_association_stops (convoy "group" "next") .none {} (by decide +kernel)
    have sound : ∀ j < 2, ¬(m "group" "next").FaultyAt "SimpleAttribute" .none j := by
      decide +kernel
    exact (fine fun i faulty => sound i faulty.lt faulty).2

end ModelCompiler
