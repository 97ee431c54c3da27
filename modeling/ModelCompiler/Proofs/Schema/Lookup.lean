import Mathlib.Data.Finset.Card
import Mathlib.Logic.Relation
import ModelCompiler.Schema.Basic

/-!
# Finding a property in a hierarchy

A search goes up from a class, depth first, and enters each class once.  `Visits` says in which
order it would enter all classes, without a bound on its depth and whatever it looks for.  Main
statement: the search looks at the classes in this order up to the first that declares the name, so
the bound does not show, and it finds a property if and only if a class that is reached declares
one.  Without cycles a search that keeps no record of what it has seen finds the same.
-/

namespace ModelCompiler.Schema

open Relation

/-! ## Classes in the order of a search -/

/-- The second class is a direct supertype of the first. -/
def Specializes (s : Schema) (c g : ClassId) : Prop := g ∈ s.generals c

/-- The classes that a search enters, in order, when it has seen some classes and is to go through
those that are left. -/
inductive Visits (s : Schema) : List ClassId → List ClassId → List ClassId → Prop
  | done {seen : List ClassId} : Visits s seen [] []
  | skip {seen : List ClassId} {c : ClassId} {left order : List ClassId} : c ∈ seen →
      Visits s seen left order → Visits s seen (c :: left) order
  | enter {seen : List ClassId} {c : ClassId} {left below rest : List ClassId} : c ∉ seen →
      Visits s (c :: seen) (s.generals c) below →
      Visits s (below.reverse ++ c :: seen) left rest →
      Visits s seen (c :: left) (c :: (below ++ rest))

/-- How many classes have not been seen. -/
def unseen (s : Schema) (seen : List ClassId) : Nat :=
  (Finset.range s.classes.length \ seen.toFinset).card

variable {s : Schema} {name : String} {c d g : ClassId} {seen left order : List ClassId}

theorem lt_length_of_mem_generals (h : g ∈ s.generals c) : c < s.classes.length := by
  by_contra outside
  simp [generals, class?, outside] at h

theorem unseen_append_le (s : Schema) (more seen : List ClassId) :
    s.unseen (more ++ seen) ≤ s.unseen seen := by
  refine Finset.card_le_card (Finset.sdiff_subset_sdiff le_rfl ?_)
  rw [List.toFinset_append]
  exact Finset.subset_union_right

/-- A class less is unseen when one that has supertypes is entered. -/
theorem unseen_cons_lt (fresh : c ∉ seen) (h : g ∈ s.generals c) :
    s.unseen (c :: seen) < s.unseen seen := by
  have before : c ∈ Finset.range s.classes.length \ seen.toFinset := by
    simpa [fresh] using lt_length_of_mem_generals h
  have after : c ∉ Finset.range s.classes.length \ (c :: seen).toFinset := by simp
  refine Finset.card_lt_card ((Finset.ssubset_iff_of_subset ?_).2 ⟨c, before, after⟩)
  exact Finset.sdiff_subset_sdiff le_rfl (by simp)

/-- A search comes to an end, whether there are cycles or not. -/
theorem exists_visits (s : Schema) (seen left : List ClassId) :
    ∃ order, s.Visits seen left order := by
  have bounded (n : Nat) (seen left : List ClassId) (bound : s.unseen seen < n) :
      ∃ order, s.Visits seen left order := by
    induction n generalizing seen left with
    | zero => cases bound
    | succ n inside =>
      induction left generalizing seen with
      | nil => exact ⟨[], .done⟩
      | cons c left ih =>
        by_cases known : c ∈ seen
        · obtain ⟨order, visits⟩ := ih seen bound
          exact ⟨order, .skip known visits⟩
        · have up : ∃ below, s.Visits (c :: seen) (s.generals c) below := by
            cases above : s.generals c with
            | nil => exact ⟨[], .done⟩
            | cons g gs =>
              have fewer : s.unseen (c :: seen) < s.unseen seen :=
                unseen_cons_lt known (above ▸ List.mem_cons_self)
              exact inside (c :: seen) (g :: gs) (by omega)
          obtain ⟨below, first⟩ := up
          have fewer := s.unseen_append_le (below.reverse ++ [c]) seen
          rw [List.append_assoc, List.singleton_append] at fewer
          obtain ⟨rest, visits⟩ := ih _ (fewer.trans_lt bound)
          exact ⟨c :: (below ++ rest), .enter known first visits⟩
  exact bounded _ seen left (Nat.lt_succ_self _)

namespace Visits

theorem unique (h : s.Visits seen left order) {other : List ClassId}
    (h' : s.Visits seen left other) : other = order := by
  induction h generalizing other with
  | done =>
    cases h'
    rfl
  | skip known _ ih =>
    cases h' with
    | skip _ visits => exact ih visits
    | enter fresh => exact absurd known fresh
  | enter fresh _ _ first rest =>
    cases h' with
    | skip known => exact absurd known fresh
    | enter _ visits visits' =>
      cases first visits
      rw [rest visits']

/-- No class is entered twice. -/
theorem fresh_and_nodup (h : s.Visits seen left order) : (∀ d ∈ order, d ∉ seen) ∧ order.Nodup := by
  induction h with
  | done => exact ⟨by simp, List.nodup_nil⟩
  | skip _ _ ih => exact ih
  | @enter seen c left below rest fresh _ _ first second =>
    obtain ⟨freshBelow, nodupBelow⟩ := first
    obtain ⟨freshRest, nodupRest⟩ := second
    have late : ∀ d ∈ rest, d ∉ below ∧ d ≠ c ∧ d ∉ seen := by
      intro d hd
      simpa using freshRest d hd
    have early : ∀ d ∈ below, d ≠ c ∧ d ∉ seen := by
      intro d hd
      simpa using freshBelow d hd
    constructor
    · intro d hd
      rcases List.mem_cons.1 hd with rfl | hd
      · exact fresh
      · rcases List.mem_append.1 hd with hd | hd
        · exact (early d hd).2
        · exact (late d hd).2.2
    · refine List.nodup_cons.2 ⟨?_, List.nodup_append.2 ⟨nodupBelow, nodupRest, ?_⟩⟩
      · intro hc
        rcases List.mem_append.1 hc with hc | hc
        · exact (early c hc).1 rfl
        · exact (late c hc).2.1 rfl
      · rintro d hd _ hd' rfl
        exact (late d hd').1 hd

/-- What is entered is reached from what was left. -/
theorem exists_reaches (h : s.Visits seen left order) (hd : d ∈ order) :
    ∃ c ∈ left, ReflTransGen s.Specializes c d := by
  induction h with
  | done => cases hd
  | skip _ _ ih =>
    obtain ⟨c, hc, reached⟩ := ih hd
    exact ⟨c, List.mem_cons_of_mem _ hc, reached⟩
  | @enter seen c left below rest _ _ _ first second =>
    rcases List.mem_cons.1 hd with rfl | hd
    · exact ⟨d, List.mem_cons_self, .refl⟩
    · rcases List.mem_append.1 hd with hd | hd
      · obtain ⟨g, hg, reached⟩ := first hd
        exact ⟨c, List.mem_cons_self, .head hg reached⟩
      · obtain ⟨e, he, reached⟩ := second hd
        exact ⟨e, List.mem_cons_of_mem _ he, reached⟩

/-- What was left and the supertypes of what is entered have been seen or are entered. -/
theorem closed (h : s.Visits seen left order) :
    (∀ c ∈ left, c ∈ seen ∨ c ∈ order) ∧
      ∀ d ∈ order, ∀ g, s.Specializes d g → g ∈ seen ∨ g ∈ order := by
  induction h with
  | done => exact ⟨by simp, by simp⟩
  | @skip seen c left order known _ ih =>
    exact ⟨List.forall_mem_cons.2 ⟨.inl known, ih.1⟩, ih.2⟩
  | @enter seen c left below rest _ _ _ first second =>
    have inside {d : ClassId} (hd : d ∈ c :: seen ∨ d ∈ below) :
        d ∈ seen ∨ d ∈ c :: (below ++ rest) := by
      simp only [List.mem_cons, List.mem_append] at hd ⊢
      tauto
    have after {d : ClassId} (hd : d ∈ below.reverse ++ c :: seen ∨ d ∈ rest) :
        d ∈ seen ∨ d ∈ c :: (below ++ rest) := by
      simp only [List.mem_cons, List.mem_append, List.mem_reverse] at hd ⊢
      tauto
    constructor
    · refine List.forall_mem_cons.2 ⟨.inr List.mem_cons_self, ?_⟩
      intro d hd
      exact after (second.1 d hd)
    · intro d hd g hg
      rcases List.mem_cons.1 hd with rfl | hd
      · exact inside (first.1 g hg)
      · rcases List.mem_append.1 hd with hd | hd
        · exact inside (first.2 d hd g hg)
        · exact after (second.2 d hd g hg)

/-- A search from a class enters what is reached from the class, and nothing else. -/
theorem mem_iff (h : s.Visits [] [c] order) : d ∈ order ↔ ReflTransGen s.Specializes c d := by
  constructor
  · intro hd
    obtain ⟨e, he, reached⟩ := h.exists_reaches hd
    rwa [List.mem_singleton.1 he] at reached
  · intro reached
    obtain ⟨start, step⟩ := h.closed
    induction reached with
    | refl => exact (start c List.mem_cons_self).resolve_left List.not_mem_nil
    | tail _ hg ih => exact (step _ ih _ hg).resolve_left List.not_mem_nil

end Visits

/-! ## The search -/

/-- Looks at classes one after the other, up to the first that declares the name, when some classes
have been seen. -/
def lookThrough (s : Schema) (name : String) : List ClassId → List ClassId → Search
  | seen, [] => { seen }
  | seen, c :: cs =>
    match s.own? c name with
    | some p => { seen := c :: seen, found := some p }
    | none => lookThrough s name (c :: seen) cs

/-- One step of a search through the supertypes of a class. -/
def ascend (s : Schema) (name : String) (fuel : Nat) (r : Search) (g : ClassId) : Search :=
  if r.found.isSome then r else search s name fuel g r

section Search

variable {cs ds : List ClassId}

theorem found_lookThrough (s : Schema) (name : String) (seen cs : List ClassId) :
    (s.lookThrough name seen cs).found = cs.findSome? (s.own? · name) := by
  induction cs generalizing seen with
  | nil => rfl
  | cons c cs ih =>
    rw [lookThrough, List.findSome?_cons]
    cases s.own? c name with
    | some p => rfl
    | none => exact ih (c :: seen)

/-- Where nothing is found, all classes have been looked at. -/
theorem lookThrough_append (h : cs.findSome? (s.own? · name) = none) :
    s.lookThrough name seen (cs ++ ds) = s.lookThrough name (cs.reverse ++ seen) ds := by
  induction cs generalizing seen with
  | nil => rfl
  | cons c cs ih =>
    obtain ⟨own, others⟩ := List.forall_mem_cons.1 (List.findSome?_eq_none_iff.1 h)
    rw [List.cons_append, lookThrough, own, ih (List.findSome?_eq_none_iff.2 others),
      List.reverse_cons, List.append_assoc, List.singleton_append]

/-- Where something is found, the classes after it are not looked at. -/
theorem lookThrough_append_of_isSome (h : (cs.findSome? (s.own? · name)).isSome) :
    s.lookThrough name seen (cs ++ ds) = s.lookThrough name seen cs := by
  induction cs generalizing seen with
  | nil => cases h
  | cons c cs ih =>
    rw [List.findSome?_cons] at h
    rw [List.cons_append, lookThrough, lookThrough]
    cases own : s.own? c name with
    | some p => rfl
    | none =>
      rw [own] at h
      exact ih h

theorem foldl_ascend_of_isSome {r : Search} (fuel : Nat) (h : r.found.isSome) :
    left.foldl (s.ascend name fuel) r = r := by
  induction left with
  | nil => rfl
  | cons c left ih => rw [List.foldl_cons, ascend, if_pos h, ih]

theorem ascend_of_mem (fuel : Nat) (h : c ∈ seen) :
    s.ascend name (fuel + 1) { seen } c = { seen } := by
  have known : seen.contains c = true := List.contains_iff_mem.2 h
  rw [ascend, if_neg (by simp), search, if_pos known]

/-- A class that has not been seen is looked at, and then its supertypes unless it declares the
name. -/
theorem ascend_of_not_mem (fuel : Nat) (fresh : c ∉ seen) :
    s.ascend name (fuel + 1) { seen } c =
      match s.own? c name with
      | some p => { seen := c :: seen, found := some p }
      | none => (s.generals c).foldl (s.ascend name fuel) { seen := c :: seen } := by
  have unknown : ¬seen.contains c = true := mt List.contains_iff_mem.1 fresh
  rw [ascend, if_neg (by simp), search, if_neg unknown]
  rfl

/-- The bound does not show if it is greater than the number of classes that have not been seen. -/
theorem Visits.foldl_ascend (h : s.Visits seen left order) {fuel : Nat}
    (enough : left ≠ [] → s.unseen seen < fuel) :
    left.foldl (s.ascend name fuel) { seen } = s.lookThrough name seen order := by
  induction h generalizing fuel with
  | done => rfl
  | @skip seen c left order known _ ih =>
    have enough := enough (List.cons_ne_nil c left)
    obtain ⟨fuel, rfl⟩ := Nat.exists_eq_succ_of_ne_zero (Nat.ne_zero_of_lt enough)
    rw [List.foldl_cons, ascend_of_mem fuel known]
    exact ih fun _ => enough
  | @enter seen c left below rest fresh _ _ inside after =>
    have enough := enough (List.cons_ne_nil c left)
    obtain ⟨fuel, rfl⟩ := Nat.exists_eq_succ_of_ne_zero (Nat.ne_zero_of_lt enough)
    have up : (s.generals c).foldl (s.ascend name fuel) { seen := c :: seen } =
        s.lookThrough name (c :: seen) below := by
      refine inside fun some => ?_
      obtain ⟨g, hg⟩ := List.exists_mem_of_ne_nil _ some
      exact (unseen_cons_lt fresh hg).trans_le (Nat.le_of_lt_succ enough)
    rw [List.foldl_cons, ascend_of_not_mem fuel fresh, up, lookThrough]
    cases s.own? c name with
    | some p => exact foldl_ascend_of_isSome _ rfl
    | none =>
      dsimp only
      cases found : below.findSome? (s.own? · name) with
      | some p =>
        rw [lookThrough_append_of_isSome (by rw [found]; rfl)]
        exact foldl_ascend_of_isSome _ (by rw [found_lookThrough, found]; rfl)
      | none =>
        -- what is below has been looked at in vain, so the search goes on with the rest
        have all : s.lookThrough name (c :: seen) below =
            { seen := below.reverse ++ c :: seen } := by
          rw [← List.append_nil below, lookThrough_append found, List.append_nil]
          rfl
        have fewer := s.unseen_append_le (below.reverse ++ [c]) seen
        rw [List.append_assoc, List.singleton_append] at fewer
        rw [lookThrough_append found, all]
        exact after fun _ => fewer.trans_lt enough

/-- Whatever the bound, if only it is greater than the number of classes, a search looks at the
classes that it reaches up to the first that declares the name. -/
theorem search_eq (h : s.Visits [] [c] order) {fuel : Nat} (enough : s.classes.length < fuel) :
    s.search name fuel c {} = s.lookThrough name [] order := by
  have unseen : s.unseen [] = s.classes.length := by simp [Schema.unseen]
  exact h.foldl_ascend fun _ => unseen ▸ enough

theorem lookup?_eq (h : s.Visits [] [c] order) :
    s.lookup? c name = order.findSome? (s.own? · name) := by
  rw [lookup?, search_eq h (Nat.lt_succ_self _), found_lookThrough]

end Search

/-- Nothing is found if and only if no class that is reached declares the name. -/
theorem lookup?_eq_none_iff :
    s.lookup? c name = none ↔ ∀ d, ReflTransGen s.Specializes c d → s.own? d name = none := by
  obtain ⟨order, h⟩ := s.exists_visits [] [c]
  rw [lookup?_eq h, List.findSome?_eq_none_iff]
  exact forall_congr' fun d => by rw [h.mem_iff]

/-! ## Hierarchies without cycles -/

/-- No class lies above itself. -/
def Acyclic (s : Schema) : Prop := ∀ c, ¬TransGen s.Specializes c c

/-- There are no cycles where every class is made after its supertypes. -/
theorem acyclic_of_lt (made : ∀ c, ∀ g ∈ s.generals c, g < c) : s.Acyclic := by
  have descends {c d : ClassId} (chain : TransGen s.Specializes c d) : d < c := by
    induction chain with
    | single hg => exact made _ _ hg
    | tail _ hg ih => exact (made _ _ hg).trans ih
  exact fun c cycle => Nat.lt_irrefl c (descends cycle)

/-- Going up from a class without cycles comes to an end: fewer and fewer classes are reached. -/
theorem Acyclic.wellFounded (acyclic : s.Acyclic) : WellFounded fun g c => s.Specializes c g := by
  classical
  let reached (c : ClassId) : Finset ClassId :=
    (Finset.range s.classes.length).filter (ReflTransGen s.Specializes c)
  refine Subrelation.wf ?_ (measure fun c => (reached c).card).wf
  intro g c hg
  have here : c ∈ reached c :=
    Finset.mem_filter.2 ⟨Finset.mem_range.2 (lt_length_of_mem_generals hg), .refl⟩
  have lost : c ∉ reached g := fun hc =>
    acyclic c (TransGen.head' hg (Finset.mem_filter.1 hc).2)
  refine Finset.card_lt_card ((Finset.ssubset_iff_of_subset ?_).2 ⟨c, here, lost⟩)
  intro d hd
  obtain ⟨inRange, above⟩ := Finset.mem_filter.1 hd
  exact Finset.mem_filter.2 ⟨inRange, .head hg above⟩

/-- Searches a class and then its supertypes, depth first, and keeps no record of what it has
seen. -/
def plainLookup? (s : Schema) (acyclic : s.Acyclic) (name : String) (c : ClassId) :
    Option PropertyId :=
  match s.own? c name with
  | some p => some p
  | none => (s.generals c).attach.findSome? fun g => plainLookup? s acyclic name g.1
termination_by acyclic.wellFounded.wrap c
decreasing_by exact g.2

theorem plainLookup?_eq (acyclic : s.Acyclic) (name : String) (c : ClassId) :
    s.plainLookup? acyclic name c =
      match s.own? c name with
      | some p => some p
      | none => (s.generals c).findSome? (s.plainLookup? acyclic name) := by
  have all : (s.generals c).attach.findSome? (fun g => s.plainLookup? acyclic name g.1) =
      (s.generals c).findSome? (s.plainLookup? acyclic name) := by
    conv_rhs => rw [← List.attach_map_subtype_val (s.generals c), List.findSome?_map]
    rfl
  rw [plainLookup?, all]

/-- Passing over classes that have been seen hides nothing: such a class cannot be one that the
search is inside of, and so nothing has been found there. -/
theorem Visits.findSome?_plainLookup? (acyclic : s.Acyclic) (h : s.Visits seen left order)
    (old : ∀ d ∈ seen, s.plainLookup? acyclic name d = none ∨
      ∀ c ∈ left, TransGen s.Specializes d c) :
    left.findSome? (s.plainLookup? acyclic name) = order.findSome? (s.own? · name) ∧
      (order.findSome? (s.own? · name) = none →
        ∀ d ∈ order, s.plainLookup? acyclic name d = none) := by
  induction h with
  | done => exact ⟨rfl, by simp⟩
  | @skip seen c left order known _ ih =>
    have passed : s.plainLookup? acyclic name c = none := by
      rcases old c known with nothing | above
      · exact nothing
      · exact absurd (above c List.mem_cons_self) (acyclic c)
    rw [List.findSome?_cons, passed]
    refine ih fun d hd => (old d hd).imp_right fun above e he => ?_
    exact above e (List.mem_cons_of_mem c he)
  | @enter seen c left below rest _ _ _ inside after =>
    have entered : ∀ d ∈ c :: seen, s.plainLookup? acyclic name d = none ∨
        ∀ g ∈ s.generals c, TransGen s.Specializes d g := by
      intro d hd
      rcases List.mem_cons.1 hd with rfl | hd
      · exact .inr fun g hg => .single hg
      · exact (old d hd).imp_right fun above g hg => (above c List.mem_cons_self).tail hg
    obtain ⟨same, nothing⟩ := inside entered
    have plain := plainLookup?_eq acyclic name c
    rw [same] at plain
    rw [List.findSome?_cons, plain, List.findSome?_cons, List.findSome?_append]
    cases own : s.own? c name with
    | some p => exact ⟨rfl, fun none => absurd none (by simp)⟩
    | none =>
      rw [own] at plain
      dsimp only at plain ⊢
      cases found : below.findSome? (s.own? · name) with
      | some p => exact ⟨rfl, fun none => absurd none (by simp)⟩
      | none =>
        rw [found] at plain
        have left : ∀ d ∈ below.reverse ++ c :: seen, s.plainLookup? acyclic name d = none ∨
            ∀ e ∈ left, TransGen s.Specializes d e := by
          intro d hd
          rcases List.mem_append.1 hd with hd | hd
          · exact .inl (nothing found d (List.mem_reverse.1 hd))
          · rcases List.mem_cons.1 hd with rfl | hd
            · exact .inl plain
            · exact (old d hd).imp_right fun above e he => above e (List.mem_cons_of_mem c he)
        obtain ⟨same', nothing'⟩ := after left
        refine ⟨same', fun none d hd => ?_⟩
        rcases List.mem_cons.1 hd with rfl | hd
        · exact plain
        · rcases List.mem_append.1 hd with hd | hd
          · exact nothing found d hd
          · exact nothing' none d hd

theorem lookup?_eq_plainLookup? (acyclic : s.Acyclic) (name : String) (c : ClassId) :
    s.lookup? c name = s.plainLookup? acyclic name c := by
  obtain ⟨order, h⟩ := s.exists_visits [] [c]
  have found : [c].findSome? (s.plainLookup? acyclic name) = order.findSome? (s.own? · name) :=
    (h.findSome?_plainLookup? acyclic (by simp)).1
  rw [lookup?_eq h, ← found, List.findSome?_singleton]

/-- A search goes through the classes that are reached in depth-first order, each at its first
visit, up to the first that declares the name, whatever the bound if it is greater than the number
of classes. It finds nothing if and only if none of them declares the name, and without cycles it
finds what the search without a record of seen classes does. -/
theorem lookup_first_declaration (s : Schema) (c : ClassId) (name : String) :
    ∃ order, (∀ other, s.Visits [] [c] other ↔ other = order) ∧ order.Nodup ∧
      (∀ d, d ∈ order ↔ ReflTransGen s.Specializes c d) ∧
      (∀ fuel, s.classes.length < fuel →
        s.search name fuel c {} = s.lookThrough name [] order) ∧
      s.lookup? c name = order.findSome? (s.own? · name) ∧
      (s.lookup? c name = none ↔
        ∀ d, ReflTransGen s.Specializes c d → s.own? d name = none) ∧
      ∀ acyclic : s.Acyclic, s.lookup? c name = s.plainLookup? acyclic name c := by
  obtain ⟨order, h⟩ := s.exists_visits [] [c]
  refine ⟨order, ?_, h.fresh_and_nodup.2, fun d => h.mem_iff, fun fuel enough => search_eq h enough,
    lookup?_eq h, lookup?_eq_none_iff, fun acyclic => lookup?_eq_plainLookup? acyclic name c⟩
  intro other
  constructor
  · exact h.unique
  · rintro rfl
    exact h

/-- A vehicle for land and water, and what is declared on boats and on all vehicles. -/
def amphibian : Schema where
  classes :=
    [{ name := "Vehicle", properties := [0] }, { name := "Car", generals := [0] },
     { name := "Boat", generals := [0], properties := [1] },
     { name := "Amphibian", generals := [1, 2] }]
  properties :=
    [{ name := "speed", kind := .attribute, type := "int", bounds := ⟨"0", "1"⟩, owner? := some 0 },
     { name := "draught", kind := .attribute, type := "int", bounds := ⟨"0", "1"⟩,
       owner? := some 2 }]

/-- Vehicles are seen before boats, which are still searched. -/
theorem lookup_first_declaration_amphibian :
    amphibian.Visits [] [3] [3, 1, 0, 2] ∧ amphibian.lookup? 3 "draught" = some 1 ∧
      ∃ acyclic : amphibian.Acyclic, amphibian.plainLookup? acyclic "draught" 3 = some 1 := by
  obtain ⟨order, visits, -, -, -, found, -, plain⟩ :=
    lookup_first_declaration amphibian 3 "draught"
  have vehicle : amphibian.Visits [1, 3] [0] [0] :=
    @Visits.enter amphibian [1, 3] 0 [] [] [] (by decide) .done .done
  have boat : amphibian.Visits [0, 1, 3] [2] [2] :=
    @Visits.enter amphibian [0, 1, 3] 2 [] [] [] (by decide) (.skip (by decide) .done) .done
  have both : amphibian.Visits [3] [1, 2] [1, 0, 2] :=
    @Visits.enter amphibian [3] 1 [2] [0] [2] (by decide) vehicle boat
  have inOrder : amphibian.Visits [] [3] [3, 1, 0, 2] :=
    @Visits.enter amphibian [] 3 [] [1, 0, 2] [] (by decide) both .done
  have acyclic : amphibian.Acyclic := by
    have made : ∀ c < 4, ∀ g ∈ amphibian.generals c, g < c := by decide
    exact acyclic_of_lt fun c g hg => made c (lt_length_of_mem_generals hg) g hg
  have value : amphibian.lookup? 3 "draught" = some 1 := by
    rw [found, ← (visits _).1 inOrder]
    decide
  exact ⟨inOrder, value, acyclic, (plain acyclic).symm.trans value⟩

end ModelCompiler.Schema
