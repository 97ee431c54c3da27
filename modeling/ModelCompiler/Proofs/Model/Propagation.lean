import ModelCompiler.Proofs.Model.Linking
import ModelCompiler.Proofs.Model.Walk

/-!
# How far stereotypes get

A class whose applied stereotype has a name is a root, and it hands this name to all that is reached
from it by going from classes to their direct subtypes.  Roots are gone through in document order
and what is handed down later counts.  Main statements: a class ends up with the name from the last
root that it is reached from, and handing down is stopped if and only if a root reaches a class that
lies below itself.
-/

namespace ModelCompiler

open Relation

namespace Model

/-- The second class is a direct subtype of the first. -/
def HasSubtype (m : Model) (a b : String) : Prop := ∃ c ∈ m.specials a, c.id = b

/-- The second class is the first one or lies below it. -/
def Reaches (m : Model) : String → String → Prop := ReflTransGen m.HasSubtype

/-- The stereotype of a root. -/
def rootName? (m : Model) (c : Class) : Option String :=
  if c.appliedStereotypes.isEmpty then none else m.stereotypeName? c

/-- The roots among some classes, with their stereotypes. -/
def rootsAmong (m : Model) (cs : List Class) : List (Class × String) :=
  cs.filterMap fun c => (m.rootName? c).map (c, ·)

/-- The roots of a model, in document order, with their stereotypes. -/
def roots (m : Model) : List (Class × String) := m.rootsAmong m.classes

/-- The model with stereotypes handed down. -/
def handDown (m : Model) (j : Journal) : Model :=
  { m with stereotypes := (m.propagate j).stereotypes }

/-! ## Walks over a model -/

variable {m : Model}

namespace Linked

variable (h : m.Linked)
include h

/-- The walk from a class does what a walk of any depth does. -/
theorem visits_walkFrom {r : ClassRef} (hr : r ∈ m.classRefs) :
    Walk.Visits m.specials [] r (m.specials r.id) { seen := [r] } (m.walkFrom r) := by
  have known {c : ClassRef} (hc : c ∈ m.classRefs) : c.id ∈ m.classes.map (·.id) :=
    m.ids_classRefs ▸ List.mem_map_of_mem hc
  refine Walk.visits_below (m.classes.map (·.id)) ?_ ?_ ?_ ?_
  · exact fun a c hc => known (h.of_mem_specials hc).2
  · exact List.nodup_singleton _
  · exact List.forall_mem_singleton.2 (known hr)
  · simp

theorem cycle_walkFrom_eq_none_iff {r : ClassRef} (hr : r ∈ m.classRefs) :
    (m.walkFrom r).cycle = none ↔ ∀ a, m.Reaches r.id a → ¬TransGen m.HasSubtype a a := by
  exact (h.visits_walkFrom hr).cycle_eq_none_iff

theorem mem_classRefs_of_mem_walkFrom {r c : ClassRef} (hr : r ∈ m.classRefs)
    (hc : c ∈ (m.walkFrom r).seen) : c ∈ m.classRefs := by
  rcases (h.visits_walkFrom hr).mem_seen (fun c hc => hc) hc with first | ⟨-, a, ha⟩
  · rw [List.mem_singleton.1 first]
    exact hr
  · exact (h.of_mem_specials ha).2

theorem mem_ids_walkFrom_iff {r : ClassRef} (hr : r ∈ m.classRefs)
    (running : (m.walkFrom r).cycle = none) {a : String} :
    a ∈ (m.walkFrom r).seen.map (·.id) ↔ m.Reaches r.id a := by
  exact (h.visits_walkFrom hr).mem_ids_seen_iff running

/-- After its class, a walk has visited each class below it once. -/
theorem exists_seen_eq_cons {r : ClassRef} (hr : r ∈ m.classRefs)
    (running : (m.walkFrom r).cycle = none) :
    ∃ others, (m.walkFrom r).seen = r :: others ∧ others.Nodup ∧
      ∀ c, c ∈ others ↔ c ∈ m.classRefs ∧ c ≠ r ∧ m.Reaches r.id c.id := by
  have visits := h.visits_walkFrom hr
  obtain ⟨others, seen⟩ := visits.exists_seen_eq_cons
  have ids := visits.ids_nodup (List.nodup_singleton _)
  have reached {a : String} := h.mem_ids_walkFrom_iff hr running (a := a)
  rw [seen] at ids reached
  have nodup : (r :: others).Nodup := ids.of_map _
  refine ⟨others, seen, nodup.of_cons, fun c => ?_⟩
  constructor
  · intro hc
    refine ⟨?_, ?_, reached.1 (List.mem_map_of_mem (List.mem_cons_of_mem r hc))⟩
    · exact h.mem_classRefs_of_mem_walkFrom hr (seen ▸ List.mem_cons_of_mem r hc)
    · rintro rfl
      exact (List.nodup_cons.1 nodup).1 hc
  · rintro ⟨hc, ne, below⟩
    obtain ⟨d, hd, hid⟩ := List.mem_map.1 (reached.2 below)
    have known : d ∈ m.classRefs := h.mem_classRefs_of_mem_walkFrom hr (seen ▸ hd)
    rw [h.eq_of_id_eq known hc hid] at hd
    exact (List.mem_cons.1 hd).resolve_left ne

end Linked

end Model

/-! ## What one root hands down -/

/-- The notice that a root has its stereotype. -/
def Class.notice (c : Class) (stereotype : String) : String :=
  "class '" ++ c.name ++ "' has been stereotyped as '" ++ stereotype ++ "'"

/-- The notice that a class below a root has the stereotype of the root. -/
def ClassRef.notice (c : ClassRef) (stereotype : String) : String :=
  "class '" ++ c.name ++ "' has been stereotyped as '" ++ stereotype ++ "' too"

namespace Model

variable {m : Model}

/-- What a root adds to the table of stereotypes, the latest first. -/
def tags (m : Model) (r : Class × String) : List (String × String) :=
  ((m.walkFrom r.1.toClassRef).seen.map fun c => (c.id, r.2)).reverse

/-- The notices for a root and for what lies below it. -/
def notices (m : Model) (r : Class × String) : List String :=
  r.1.notice r.2 :: ((m.walkFrom r.1.toClassRef).seen.drop 1).map (·.notice r.2)

theorem lookup_map_tag (cs : List ClassRef) (name id : String) :
    (cs.map fun c => (c.id, name)).lookup id =
      if id ∈ cs.map (·.id) then some name else none := by
  induction cs with
  | nil => rfl
  | cons c cs ih =>
    by_cases same : id = c.id
    · simp [same]
    · simpa [List.lookup_cons, beq_eq_false_iff_ne.2 same, same] using ih

theorem lookup_tags (r : Class × String) (id : String) :
    (m.tags r).lookup id =
      if id ∈ (m.walkFrom r.1.toClassRef).seen.map (·.id) then some r.2 else none := by
  rw [tags, ← List.map_reverse, lookup_map_tag, List.map_reverse]
  exact if_congr List.mem_reverse rfl rfl

theorem mem_roots {r : Class × String} :
    r ∈ m.roots ↔ r.1 ∈ m.classes ∧ m.rootName? r.1 = some r.2 := by
  simp only [roots, rootsAmong, List.mem_filterMap, Option.map_eq_some_iff]
  constructor
  · rintro ⟨c, hc, name, hname, rfl⟩
    exact ⟨hc, hname⟩
  · rintro ⟨hc, hname⟩
    exact ⟨r.1, hc, r.2, hname, rfl⟩

end Model

theorem Journal.comments_foldl_comment {α : Type} (text : α → String) (l : List α) (j : Journal) :
    (l.foldl (fun j a => j.comment (text a)) j).comments = j.comments ++ l.map text := by
  induction l generalizing j with
  | nil => simp
  | cons a l ih =>
    rw [List.foldl_cons, ih, comment, List.map_cons, List.append_assoc, List.singleton_append]

namespace Propagation

variable {m : Model} {p q q' : Propagation}

/-- `q` is `p` after some roots: their tags stand before what the table had, and their notices after
what had been noted. -/
structure Hands (m : Model) (rs : List (Class × String)) (p q : Propagation) : Prop where
  stereotypes : q.stereotypes = rs.reverse.flatMap m.tags ++ p.stereotypes
  comments : q.journal.comments = p.journal.comments ++ rs.flatMap m.notices

namespace Hands

variable {rs ss : List (Class × String)}

theorem refl (m : Model) (p : Propagation) : Hands m [] p p := ⟨rfl, by simp⟩

theorem trans (h : Hands m rs p q) (k : Hands m ss q q') : Hands m (rs ++ ss) p q' where
  stereotypes := by rw [k.stereotypes, h.stereotypes]; simp
  comments := by rw [k.comments, h.comments]; simp

end Hands

/-- A root has its stereotype and hands it down. -/
theorem hands_tag (p : Propagation) (c : Class) (name : String) :
    Hands m [(c, name)] p (p.tag c name (m.walkFrom c.toClassRef)) where
  stereotypes := by simp [tag, Model.tags]
  comments := by
    refine (Journal.comments_foldl_comment (ClassRef.notice · name) _ _).trans ?_
    simp [Model.notices, Journal.inform, Journal.comment, Class.notice]

theorem visit_of_root {c : Class} {name : String} (running : p.cycle = none)
    (h : m.rootName? c = some name) : visit m p c = p.tag c name (m.walkFrom c.toClassRef) := by
  unfold Model.rootName? at h
  split at h
  · cases h
  · rename_i applied
    rw [visit, if_neg (by simpa [running] using applied), h]

/-- What is no root is worth a warning at most. -/
theorem visit_of_no_root {c : Class} (h : m.rootName? c = none) :
    (visit m p c).cycle = p.cycle ∧ Hands m [] p (visit m p c) := by
  unfold visit
  split
  · exact ⟨rfl, .refl m p⟩
  · rename_i applied
    rw [not_or] at applied
    rw [Model.rootName?, if_neg applied.2] at h
    rw [h]
    exact ⟨rfl, rfl, by simp⟩

theorem visit_of_cycle {c : Class} (stopped : p.cycle.isSome) : visit m p c = p := by
  rw [visit, if_pos (.inl stopped)]

/-- Handing down goes on as long as no root reaches a cycle, and until then every root has handed
down its stereotype. -/
theorem foldl_visit {cs : List Class} (running : p.cycle = none) :
    ((cs.foldl (visit m) p).cycle = none ↔
      ∀ r ∈ m.rootsAmong cs, (m.walkFrom r.1.toClassRef).cycle = none) ∧
    ((cs.foldl (visit m) p).cycle = none →
      Hands m (m.rootsAmong cs) p (cs.foldl (visit m) p)) := by
  induction cs generalizing p with
  | nil => exact ⟨by simp [running, Model.rootsAmong], fun _ => .refl m p⟩
  | cons c cs ih =>
    rw [List.foldl_cons]
    cases hc : m.rootName? c with
    | none =>
      have rest : m.rootsAmong (c :: cs) = m.rootsAmong cs :=
        List.filterMap_cons_none (by rw [hc]; rfl)
      obtain ⟨cycle, hands⟩ := visit_of_no_root (p := p) hc
      obtain ⟨stops, handed⟩ := ih (cycle.trans running)
      rw [rest]
      exact ⟨stops, fun h => hands.trans (handed h)⟩
    | some name =>
      have rest : m.rootsAmong (c :: cs) = (c, name) :: m.rootsAmong cs :=
        List.filterMap_cons_some (by rw [hc]; rfl)
      rw [rest, visit_of_root running hc, List.forall_mem_cons]
      cases walked : (m.walkFrom c.toClassRef).cycle with
      | none =>
        obtain ⟨stops, handed⟩ := ih (p := p.tag c name (m.walkFrom c.toClassRef)) walked
        refine ⟨stops.trans (by simp), fun h => (hands_tag p c name).trans (handed h)⟩
      | some found =>
        -- nothing happens any more
        have stopped : (p.tag c name (m.walkFrom c.toClassRef)).cycle = some found := walked
        have same : cs.foldl (visit m) (p.tag c name (m.walkFrom c.toClassRef)) =
            p.tag c name (m.walkFrom c.toClassRef) :=
          List.foldlRecOn cs _ (motive := (· = _)) rfl fun u hu d _ => by
            rw [hu, visit_of_cycle (by rw [stopped]; rfl)]
        rw [same, stopped]
        simp

end Propagation

/-! ## What all roots hand down -/

namespace Model

variable {m : Model} {j : Journal}

/-- Handing down is stopped by the walk from a root, if one is stopped. -/
theorem cycle_propagate_eq_none_iff_walkFrom :
    (m.propagate j).cycle = none ↔ ∀ r ∈ m.roots, (m.walkFrom r.1.toClassRef).cycle = none :=
  (Propagation.foldl_visit rfl).1

theorem cycle_propagate_eq_none_iff (h : m.Linked) :
    (m.propagate j).cycle = none ↔
      ∀ r ∈ m.roots, ∀ a, m.Reaches r.1.id a → ¬TransGen m.HasSubtype a a := by
  refine cycle_propagate_eq_none_iff_walkFrom.trans ?_
  refine forall₂_congr fun r hr => ?_
  exact h.cycle_walkFrom_eq_none_iff (toClassRef_mem_classRefs (mem_roots.1 hr).1)

theorem hands_propagate (ok : (m.propagate j).cycle = none) :
    Propagation.Hands m m.roots { stereotypes := m.stereotypes, journal := j } (m.propagate j) :=
  (Propagation.foldl_visit rfl).2 ok

theorem stereotype_handDown (ok : (m.propagate j).cycle = none) (id : String) :
    (m.handDown j).stereotype id =
      (((m.roots.reverse.flatMap m.tags).lookup id).or (m.stereotypes.lookup id)).getD "" := by
  rw [stereotype, handDown, (hands_propagate ok).stereotypes, List.lookup_append]

/-- The tags of a class come from the last root that it is reached from. -/
theorem lookup_flatMap_tags (rs : List (Class × String)) {ss : List (Class × String)}
    {id : String}
    (later : ∀ s ∈ ss, id ∉ (m.walkFrom s.1.toClassRef).seen.map (·.id)) :
    ((rs ++ ss).reverse.flatMap m.tags).lookup id = (rs.reverse.flatMap m.tags).lookup id := by
  have none : (ss.reverse.flatMap m.tags).lookup id = none := by
    rw [List.lookup_eq_none_iff]
    intro t ht
    obtain ⟨s, hs, hts⟩ := List.mem_flatMap.1 ht
    have unseen := lookup_tags (m := m) s id
    rw [if_neg (later s (List.mem_reverse.1 hs)), List.lookup_eq_none_iff] at unseen
    exact unseen t hts
  rw [List.reverse_append, List.flatMap_append, List.lookup_append, none, Option.none_or]

/-- The last root, in document order, that a class is reached from. -/
def IsLastRoot (m : Model) (r : Class × String) (id : String) : Prop :=
  ∃ before after, m.roots = before ++ r :: after ∧ m.Reaches r.1.id id ∧
    ∀ s ∈ after, ¬m.Reaches s.1.id id

section Done

variable (linked : m.Linked) (ok : (m.propagate j).cycle = none)
include linked ok

theorem mem_ids_walkFrom_root {r : Class × String} (hr : r ∈ m.roots) {id : String} :
    id ∈ (m.walkFrom r.1.toClassRef).seen.map (·.id) ↔ m.Reaches r.1.id id :=
  linked.mem_ids_walkFrom_iff (toClassRef_mem_classRefs (mem_roots.1 hr).1)
    (cycle_propagate_eq_none_iff_walkFrom.1 ok r hr)

theorem stereotype_of_isLastRoot {r : Class × String} {id : String} (h : m.IsLastRoot r id) :
    (m.handDown j).stereotype id = r.2 := by
  obtain ⟨before, after, split, reached, later⟩ := h
  have reaches {s : Class × String} (hs : s ∈ before ++ r :: after) :
      id ∈ (m.walkFrom s.1.toClassRef).seen.map (·.id) ↔ m.Reaches s.1.id id :=
    mem_ids_walkFrom_root linked ok (split ▸ hs)
  have last : (m.roots.reverse.flatMap m.tags).lookup id = some r.2 := by
    rw [split, List.append_cons, lookup_flatMap_tags]
    · have tagged := lookup_tags (m := m) r id
      rw [if_pos ((reaches (by simp)).2 reached)] at tagged
      rw [List.reverse_concat, List.flatMap_cons, List.lookup_append, tagged, Option.some_or]
    · exact fun s hs seen => later s hs ((reaches (by simp [hs])).1 seen)
  rw [stereotype_handDown ok, last, Option.some_or, Option.getD_some]

theorem stereotype_of_no_root {id : String} (h : ∀ r ∈ m.roots, ¬m.Reaches r.1.id id) :
    (m.handDown j).stereotype id = m.stereotype id := by
  have none : (m.roots.reverse.flatMap m.tags).lookup id = none :=
    lookup_flatMap_tags [] fun r hr seen =>
      h r hr ((mem_ids_walkFrom_root linked ok hr).1 seen)
  rw [stereotype_handDown ok, none, Option.none_or, stereotype]

end Done

/-- Handing down what has been handed down already changes nothing. -/
theorem stereotype_handDown_handDown (ok : (m.propagate j).cycle = none) (k : Journal) :
    ((m.handDown j).propagate k).cycle = none ∧
      ∀ id, ((m.handDown j).handDown k).stereotype id = (m.handDown j).stereotype id := by
  -- the walks are those of before
  have walked : ∀ r ∈ m.roots, (m.walkFrom r.1.toClassRef).cycle = none :=
    cycle_propagate_eq_none_iff_walkFrom.1 ok
  have again : ((m.handDown j).propagate k).cycle = none :=
    cycle_propagate_eq_none_iff_walkFrom.2 walked
  refine ⟨again, fun id => ?_⟩
  have same : (m.handDown j).roots.reverse.flatMap (m.handDown j).tags =
      m.roots.reverse.flatMap m.tags := rfl
  have table : (m.handDown j).stereotypes = m.roots.reverse.flatMap m.tags ++ m.stereotypes :=
    (hands_propagate ok).stereotypes
  rw [stereotype_handDown again, same, table, List.lookup_append, stereotype_handDown ok]
  cases (m.roots.reverse.flatMap m.tags).lookup id <;> rfl

/-- If handing down is not stopped, a class has the stereotype of the last root in document order
that it is reached from, and none if there is no such root.  For each root there is one notice for
the root, and one for each other class that is reached from it.  Handing down once more changes
nothing. -/
theorem handDown_last_root (m : Model) (j : Journal) (linked : m.Linked)
    (bare : ∀ c ∈ m.classes, m.stereotype c.id = "") (ok : (m.propagate j).cycle = none) :
    (∀ c ∈ m.classes,
      (∀ r, m.IsLastRoot r c.id → (m.handDown j).stereotype c.id = r.2) ∧
      ((∀ r ∈ m.roots, ¬m.Reaches r.1.id c.id) → (m.handDown j).stereotype c.id = "")) ∧
    (∃ others : Class → List ClassRef,
      (∀ r ∈ m.roots, (others r.1).Nodup ∧ ∀ c, c ∈ others r.1 ↔
        c ∈ m.classRefs ∧ c ≠ r.1.toClassRef ∧ m.Reaches r.1.id c.id) ∧
      (m.propagate j).journal.comments = j.comments ++
        m.roots.flatMap fun r => r.1.notice r.2 :: (others r.1).map (·.notice r.2)) ∧
    ∀ k, ((m.handDown j).propagate k).cycle = none ∧
      ∀ c ∈ m.classes, ((m.handDown j).handDown k).stereotype c.id =
        (m.handDown j).stereotype c.id := by
  refine ⟨fun c hc => ⟨fun r hr => ?_, fun none => ?_⟩, ?_, fun k => ?_⟩
  · exact stereotype_of_isLastRoot linked ok hr
  · exact (stereotype_of_no_root linked ok none).trans (bare c hc)
  · refine ⟨fun c => (m.walkFrom c.toClassRef).seen.drop 1, ?_, (hands_propagate ok).comments⟩
    intro r hr
    obtain ⟨others, seen, nodup, mem⟩ :=
      linked.exists_seen_eq_cons (toClassRef_mem_classRefs (mem_roots.1 hr).1)
        (cycle_propagate_eq_none_iff_walkFrom.1 ok r hr)
    simp only [seen, List.drop_one, List.tail_cons]
    exact ⟨nodup, mem⟩
  · obtain ⟨again, same⟩ := stereotype_handDown_handDown ok k
    exact ⟨again, fun c _ => same c.id⟩

end Model

/-- Handing down is stopped if and only if a root reaches a class that lies below itself, and every
walk over the model comes to its end, whatever the links are. -/
theorem Model.propagate_stops_iff (m : Model) (j : Journal) (linked : m.Linked) :
    ((m.propagate j).cycle.isSome ↔
      ∃ r ∈ m.roots, ∃ c ∈ m.classes,
        m.Reaches r.1.id c.id ∧ TransGen m.HasSubtype c.id c.id) ∧
    ∀ c ∈ m.classes, Walk.Visits m.specials [] c.toClassRef (m.specials c.id)
      { seen := [c.toClassRef] } (m.walkFrom c.toClassRef) := by
  refine ⟨?_, fun c hc => linked.visits_walkFrom (toClassRef_mem_classRefs hc)⟩
  rw [← Option.ne_none_iff_isSome, ne_eq, cycle_propagate_eq_none_iff linked]
  constructor
  · intro h
    push Not at h
    obtain ⟨r, hr, a, reached, cycle⟩ := h
    -- what has a subtype is a class
    obtain ⟨b, ⟨d, hd, -⟩, -⟩ := TransGen.head'_iff.1 cycle
    obtain ⟨c, hc, same⟩ := List.mem_map.1 (linked.of_mem_specials hd).1
    rw [← same] at reached cycle
    exact ⟨r, hr, c, hc, reached, cycle⟩
  · rintro ⟨r, hr, c, -, reached, cycle⟩ none
    exact none r hr c.id reached cycle

/-- Two roots, the second of which stands above the first and above a diamond, and a class that no
root reaches. -/
def heirs : Graph where
  elements :=
    [⟨"left", "Class", [("name", .scalar "Left"), ("appliedStereotype", .ref "first")]⟩,
     ⟨"top", "Class", [("name", .scalar "Top"), ("appliedStereotype", .ref "second")]⟩,
     ⟨"right", "Class", [("name", .scalar "Right")]⟩,
     ⟨"bottom", "Class", [("name", .scalar "Bottom")]⟩,
     ⟨"other", "Class", [("name", .scalar "Other")]⟩,
     ⟨"first", "InstanceSpecification", [("classifier", .ref "silver")]⟩,
     ⟨"silver", "Stereotype", [("name", .scalar "Silver")]⟩,
     ⟨"second", "InstanceSpecification", [("classifier", .ref "gold")]⟩,
     ⟨"gold", "Stereotype", [("name", .scalar "Gold")]⟩,
     ⟨"a", "Generalization", [("specific", .ref "left"), ("general", .ref "top")]⟩,
     ⟨"b", "Generalization", [("specific", .ref "right"), ("general", .ref "top")]⟩,
     ⟨"c", "Generalization", [("specific", .ref "bottom"), ("general", .ref "left")]⟩,
     ⟨"d", "Generalization", [("specific", .ref "bottom"), ("general", .ref "right")]⟩]
  ids_nodup := by decide
  ids_ne := by decide

theorem handDown_last_root_heirs :
    let m := (Model.ofGraph {} heirs).linkClasses
    (m.propagate {}).cycle = none ∧
    m.IsLastRoot ({ id := "top", name := "Top", appliedStereotypes := ["second"] }, "Gold")
      "bottom" ∧
    (m.handDown {}).stereotype "bottom" = "Gold" ∧
    (m.handDown {}).stereotype "other" = "" ∧
    (m.propagate {}).journal.comments =
      ["class 'Left' has been stereotyped as 'Silver'",
       "class 'Bottom' has been stereotyped as 'Silver' too",
       "class 'Top' has been stereotyped as 'Gold'",
       "class 'Left' has been stereotyped as 'Gold' too",
       "class 'Bottom' has been stereotyped as 'Gold' too",
       "class 'Right' has been stereotyped as 'Gold' too"] := by
  intro m
  have ok : (m.propagate {}).cycle = none := by decide +kernel
  have linked : m.Linked := Model.linked_linkClasses {} heirs
  have bare : ∀ c ∈ m.classes, m.stereotype c.id = "" := by decide +kernel
  let left : Class := { id := "left", name := "Left", appliedStereotypes := ["first"] }
  let top : Class := { id := "top", name := "Top", appliedStereotypes := ["second"] }
  have roots : m.roots = [(left, "Silver"), (top, "Gold")] := by decide +kernel
  have reached : m.Reaches "top" "bottom" :=
    .head (b := "left") (by unfold Model.HasSubtype; decide +kernel)
      (.single (by unfold Model.HasSubtype; decide +kernel))
  have last : m.IsLastRoot (top, "Gold") "bottom" :=
    ⟨[(left, "Silver")], [], roots, reached, by simp⟩
  have alone : ∀ r ∈ m.roots, ¬m.Reaches r.1.id "other" := by
    have noSubtype : ∀ c ∈ m.classes, ∀ d ∈ m.specials c.id, d.id ≠ "other" := by decide +kernel
    intro r hr reached
    rcases ReflTransGen.cases_tail reached with same | ⟨_, -, d, hd, hs⟩
    · rw [roots] at hr
      rcases List.mem_pair.1 hr with rfl | rfl <;> exact absurd same (by decide)
    · obtain ⟨c, hc, rfl⟩ := List.mem_map.1 (linked.of_mem_specials hd).1
      exact noSubtype c hc d hd hs
  obtain ⟨stereotypes, -, -⟩ := Model.handDown_last_root m {} linked bare ok
  refine ⟨ok, last, ?_, ?_, by decide +kernel⟩
  · exact (stereotypes { id := "bottom", name := "Bottom" } (by decide +kernel)).1 _ last
  · exact (stereotypes { id := "other", name := "Other" } (by decide +kernel)).2 alone

/-- A root above two classes that lie below each other, and a class that lies below itself. -/
def carousel : Graph where
  elements :=
    [⟨"top", "Class", [("name", .scalar "Top"), ("appliedStereotype", .ref "applied")]⟩,
     ⟨"up", "Class", [("name", .scalar "Up")]⟩,
     ⟨"down", "Class", [("name", .scalar "Down")]⟩,
     ⟨"applied", "InstanceSpecification", [("classifier", .ref "gold")]⟩,
     ⟨"gold", "Stereotype", [("name", .scalar "Gold")]⟩,
     ⟨"a", "Generalization", [("specific", .ref "up"), ("general", .ref "top")]⟩,
     ⟨"b", "Generalization", [("specific", .ref "down"), ("general", .ref "up")]⟩,
     ⟨"c", "Generalization", [("specific", .ref "up"), ("general", .ref "down")]⟩]
  ids_nodup := by decide
  ids_ne := by decide

theorem propagate_stops_iff_carousel :
    (let m := (Model.ofGraph {} carousel).linkClasses
     m.Linked ∧ (m.propagate {}).cycle = some ⟨"Up", "Down"⟩ ∧
      ∃ r ∈ m.roots, ∃ c ∈ m.classes,
        m.Reaches r.1.id c.id ∧ TransGen m.HasSubtype c.id c.id) ∧
    (let m := (Model.ofGraph {} heirs).linkClasses
     m.Linked ∧ (m.propagate {}).cycle = none ∧
      ¬∃ r ∈ m.roots, ∃ c ∈ m.classes,
        m.Reaches r.1.id c.id ∧ TransGen m.HasSubtype c.id c.id) := by
  constructor
  · intro m
    have linked : m.Linked := Model.linked_linkClasses {} carousel
    have stopped : (m.propagate {}).cycle = some ⟨"Up", "Down"⟩ := by decide +kernel
    refine ⟨linked, stopped, (m.propagate_stops_iff {} linked).1.1 ?_⟩
    rw [stopped]
    rfl
  · intro m
    have linked : m.Linked := Model.linked_linkClasses {} heirs
    have ok : (m.propagate {}).cycle = none := by decide +kernel
    refine ⟨linked, ok, fun cyclic => ?_⟩
    have stopped := (m.propagate_stops_iff {} linked).1.2 cyclic
    rw [ok] at stopped
    cases stopped

end ModelCompiler
