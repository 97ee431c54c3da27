import Mathlib.Data.List.Perm.Basic
import ModelCompiler.Proofs.Source.LeastOrder

/-!
# Classes that cannot be ordered

When no more numbers can be taken, each one that is left depends on another one that is left, so its
dependencies lead to a cycle; those of the numbers that have been taken do not.  Main statement:
classes can be ordered unless some of them specialize each other in a circle, and the error names
those classes whose supertypes lead to such a circle, in the order of the list.
-/

namespace ModelCompiler.Source

open Relation

/-- From `a` one gets, step by step, to something from which one gets back to it. -/
def LeadsToCycle {α : Type} (r : α → α → Prop) (a : α) : Prop :=
  ∃ b, ReflTransGen r a b ∧ TransGen r b b

/-- A class of a list specializes another class of the list.  No class is another one than itself,
so a circle of such steps has at least two classes. -/
structure Specializes (classes : List ClassDef) (c d : ClassDef) : Prop where
  specific_mem : c ∈ classes
  general_mem : d ∈ classes
  other : d.id ≠ c.id
  general : ∃ g ∈ c.generals, g.id = d.id

namespace LeadsToCycle

variable {α β : Type} {r : α → α → Prop} {s : β → β → Prop} {a b : α}

theorem of_cycle (h : TransGen r a a) : LeadsToCycle r a := ⟨a, .refl, h⟩

theorem head (h : r a b) : LeadsToCycle r b → LeadsToCycle r a
  | ⟨c, way, cycle⟩ => ⟨c, .head h way, cycle⟩

/-- The way to a cycle, and along it, has a first step. -/
theorem exists_step (h : LeadsToCycle r a) : ∃ b, r a b ∧ LeadsToCycle r b := by
  obtain ⟨c, way, cycle⟩ := h
  rcases way.cases_head with rfl | ⟨b, hab, way⟩
  · obtain ⟨b, hab, back⟩ := TransGen.head'_iff.1 cycle
    exact ⟨b, hab, a, back, cycle⟩
  · exact ⟨b, hab, c, way, cycle⟩

/-- Where each step can be followed by a partner, and nothing has two partners, a cycle is followed
to a cycle. -/
theorem follow (partner : α → β → Prop)
    (step : ∀ {a a' b}, partner a b → r a a' → ∃ b', partner a' b' ∧ s b b')
    (unique : ∀ {a b b'}, partner a b → partner a b' → b = b')
    {b : β} (hab : partner a b) (h : LeadsToCycle r a) : LeadsToCycle s b := by
  obtain ⟨c, way, cycle⟩ := h
  have along {a c : α} {b : β} (hab : partner a b) (way : TransGen r a c) :
      ∃ d, partner c d ∧ TransGen s b d := by
    induction way with
    | single h =>
      obtain ⟨d, hd, hs⟩ := step hab h
      exact ⟨d, hd, .single hs⟩
    | tail _ h ih =>
      obtain ⟨d, hd, hs⟩ := ih
      obtain ⟨e, he, hde⟩ := step hd h
      exact ⟨e, he, hs.tail hde⟩
  have arrive : ∃ d, partner c d ∧ ReflTransGen s b d := by
    rcases reflTransGen_iff_eq_or_transGen.1 way with rfl | way
    · exact ⟨b, hab, .refl⟩
    · obtain ⟨d, hd, hs⟩ := along hab way
      exact ⟨d, hd, hs.to_reflTransGen⟩
  obtain ⟨d, hcd, reached⟩ := arrive
  obtain ⟨e, hce, round⟩ := along hcd cycle
  exact ⟨d, reached, unique hce hcd ▸ round⟩

end LeadsToCycle

/-! ## Numbers -/

section Numbers

variable {n : Nat} {deps : Nat → List Int}

/-- Nothing that has been taken leads to a cycle. -/
theorem Supported.not_leadsToCycle {l : List Nat} (h : Supported deps l) :
    ∀ i ∈ l, ¬LeadsToCycle (DependsOn deps) i := by
  induction l with
  | nil => simp
  | cons i l ih =>
    intro j hj leads
    rcases List.mem_cons.1 hj with rfl | hj
    · obtain ⟨k, hk, leads⟩ := leads.exists_step
      exact ih h.2 k (h.1 k hk) leads
    · exact ih h.2 j hj leads

/-- Numbers each of which depends on another one of them lead to a cycle. -/
theorem leadsToCycle_of_exists_missing {left : List Nat}
    (missing : ∀ i ∈ left, ∃ j ∈ left, DependsOn deps i j) :
    ∀ i ∈ left, LeadsToCycle (DependsOn deps) i := by
  classical
  by_contra! some
  obtain ⟨i, hi, free⟩ := some
  have mem {j : Nat} : j ∈ left.filter (fun j => ¬LeadsToCycle (DependsOn deps) j) ↔
      j ∈ left ∧ ¬LeadsToCycle (DependsOn deps) j := by
    rw [List.mem_filter, decide_eq_true_iff]
  obtain ⟨j, hj, independent⟩ := exists_independent
    (fun j hj cycle => (mem.1 hj).2 (.of_cycle cycle)) (List.ne_nil_of_mem (mem.2 ⟨hi, free⟩))
  obtain ⟨k, hk, depends⟩ := missing j (mem.1 hj).1
  refine independent k (mem.2 ⟨hk, fun leads => ?_⟩) depends
  exact (mem.1 hj).2 (leads.head depends)

/-- What is left in the end is what leads to a cycle. -/
theorem mem_take_iff (inRange : InRange n deps) {i : Nat} (hi : i < n) :
    i ∈ (take deps n [] (List.range n)).2 ↔ LeadsToCycle (DependsOn deps) i := by
  have sound := sound_take n (Sound.start deps (List.range n))
  have stuck (j : Nat) (hj : j ∈ (take deps n [] (List.range n)).2) :=
    not_admits_of_mem_take n (by simp) hj
  constructor
  · exact leadsToCycle_of_exists_missing
      (fun j hj => sound.exists_missing inRange stuck hj) i
  · intro leads
    have known : i ∈ (take deps n [] (List.range n)).1 ++
        (take deps n [] (List.range n)).2 :=
      sound.perm.mem_iff.2 (List.mem_range.2 hi)
    exact (List.mem_append.1 known).resolve_left
      fun taken => sound.supported.not_leadsToCycle i taken leads

/-- A part of a list without repetitions is determined by its members. -/
theorem eq_filter_of_sublist {α : Type} [DecidableEq α] {l part : List α} (h : part.Sublist l)
    (nodup : l.Nodup) : part = l.filter (· ∈ part) := by
  have kept : part.Sublist (l.filter (· ∈ part)) := by
    have kept := h.filter (· ∈ part)
    rwa [List.filter_eq_self.2 fun a ha => decide_eq_true ha] at kept
  have same : part.Perm (l.filter (· ∈ part)) :=
    (List.perm_ext_iff_of_nodup (nodup.sublist h) (nodup.filter _)).2 fun a => by
      simpa using fun ha => h.subset ha
  exact kept.eq_of_length same.length_eq

end Numbers

/-! ## Classes and their numbers -/

section Classes

variable {classes : List ClassDef}

theorem exists_of_lastIndex? {id : String} {j : Nat} (h : lastIndex? classes id = some j) :
    ∃ d, classes[j]? = some d ∧ d.id = id := by
  have found := List.find?_some h
  obtain ⟨d, hd, hid⟩ := (Option.any_eq_true _ _).1 found
  exact ⟨d, hd, beq_iff_eq.1 hid⟩

/-- A number depends on another one if the class with that number is a supertype. -/
theorem dependsOn_superIndices (distinct : (classes.map (·.id)).Nodup) {i j : Nat} {c : ClassDef}
    (hi : classes[i]? = some c) :
    DependsOn (superIndices classes) i j ↔
      ∃ d, classes[j]? = some d ∧ Specializes classes c d := by
  simp only [DependsOn, superIndices, hi, List.mem_map, List.mem_filter, List.mem_filterMap,
    Int.ofNat_eq_natCast, Int.natCast_inj, bne_iff_ne]
  constructor
  · rintro ⟨_, ⟨⟨g, hg, found⟩, ne⟩, rfl⟩
    obtain ⟨d, hd, hid⟩ := exists_of_lastIndex? found
    refine ⟨d, hd, List.mem_of_getElem? hi, List.mem_of_getElem? hd, fun same => ?_, g, hg,
      hid.symm⟩
    exact ne (index_eq_of_key distinct hd hi same)
  · rintro ⟨d, hd, specializes⟩
    obtain ⟨g, hg, hid⟩ := specializes.general
    obtain ⟨k, e, found, hk, same⟩ := exists_lastIndex? specializes.general_mem
    have hkj : k = j := index_eq_of_key distinct hk hd same
    refine ⟨j, ⟨⟨g, hg, ?_⟩, ?_⟩, rfl⟩
    · rw [hid, found, hkj]
    · rintro rfl
      rw [hi] at hd
      cases hd
      exact specializes.other rfl

theorem inRange_superIndices (classes : List ClassDef) :
    InRange classes.length (superIndices classes) := by
  intro i _ d hd
  unfold superIndices at hd
  split at hd
  · cases hd
  · obtain ⟨j, hj, rfl⟩ := List.mem_map.1 hd
    obtain ⟨g, -, found⟩ := List.mem_filterMap.1 (List.mem_filter.1 hj).1
    obtain ⟨e, he, -⟩ := exists_of_lastIndex? found
    have lt : j < classes.length := (List.getElem?_eq_some_iff.1 he).1
    exact ⟨Int.natCast_nonneg j, Int.ofNat_lt.2 lt⟩

/-- The number of a class leads to a cycle if the class does. -/
theorem leadsToCycle_superIndices (distinct : (classes.map (·.id)).Nodup) {i : Nat} {c : ClassDef}
    (hi : classes[i]? = some c) :
    LeadsToCycle (DependsOn (superIndices classes)) i ↔
      LeadsToCycle (Specializes classes) c := by
  constructor
  · refine LeadsToCycle.follow (fun i c => classes[i]? = some c) ?_ ?_ hi
    · exact fun hi depends => (dependsOn_superIndices distinct hi).1 depends
    · exact fun hc hd => Option.some.inj (hc.symm.trans hd)
  · refine LeadsToCycle.follow (fun c i => classes[i]? = some c) ?_ ?_ hi
    · intro c d i hi specializes
      obtain ⟨j, hj⟩ := List.mem_iff_getElem?.1 specializes.general_mem
      exact ⟨j, hj, (dependsOn_superIndices distinct hi).2 ⟨d, hj, specializes⟩⟩
    · exact fun hi hj => index_eq_of_key distinct hi hj rfl

/-- What is picked by its number is picked in the order of the list. -/
theorem filterMap_filter_range {α β : Type} (l : List α) {p : Nat → Bool} {q : α → Bool}
    (f : α → β) (h : ∀ i a, l[i]? = some a → p i = q a) :
    ((List.range l.length).filter p).filterMap (fun i => l[i]?.map f) = (l.filter q).map f := by
  conv_rhs => rw [← filterMap_getElem?_range l]
  rw [List.filterMap_filter, List.filter_filterMap, List.map_filterMap]
  refine List.filterMap_congr fun i _ => ?_
  cases ha : l[i]? with
  | none => simp
  | some a => simp [h i a ha, Option.filter]

end Classes

open Classical in
/-- Classes can be ordered unless some of them specialize each other in a circle.  If they cannot,
the error names the classes whose supertypes lead to such a circle, in the order of the list. -/
theorem classOrder_blames_cycles (classes : List ClassDef)
    (distinct : (classes.map (·.id)).Nodup) :
    ((∃ names, classOrder classes = .error (.cycle names)) ↔
      ∃ c, TransGen (Specializes classes) c c) ∧
    ∀ e, classOrder classes = .error e →
      e = .cycle ((classes.filter fun c => LeadsToCycle (Specializes classes) c).map (·.name)) := by
  let deps := superIndices classes
  let left := (take deps classes.length [] (List.range classes.length)).2
  have inRange : InRange classes.length deps := inRange_superIndices classes
  have mem {i : Nat} {c : ClassDef} (hi : classes[i]? = some c) :
      i ∈ left ↔ LeadsToCycle (Specializes classes) c :=
    (mem_take_iff inRange (List.getElem?_eq_some_iff.1 hi).1).trans
      (leadsToCycle_superIndices distinct hi)
  have outcome : dependencyOrder classes.length deps =
      if left = [] then
        .ok (take deps classes.length [] (List.range classes.length)).1.reverse
      else .error (.cycle left) := by
    rw [dependencyOrder_eq, outOfRange?_eq_none_iff.2 inRange]
  unfold classOrder
  by_cases none : left = []
  · rw [outcome, if_pos none]
    constructor
    · constructor
      · rintro ⟨_, ⟨⟩⟩
      · rintro ⟨c, cycle⟩
        obtain ⟨d, first, -⟩ := TransGen.head'_iff.1 cycle
        obtain ⟨i, hi⟩ := List.mem_iff_getElem?.1 first.specific_mem
        have stuck : i ∈ left := (mem hi).2 (.of_cycle cycle)
        rw [none] at stuck
        cases stuck
    · rintro _ ⟨⟩
  · rw [outcome, if_neg none]
    have sub : left.Sublist (List.range classes.length) := sublist_take _ _ _
    constructor
    · refine ⟨fun _ => ?_, fun _ => ⟨_, rfl⟩⟩
      obtain ⟨i, stuck⟩ := List.exists_mem_of_ne_nil left none
      have lt : i < classes.length := List.mem_range.1 (sub.subset stuck)
      obtain ⟨d, -, cycle⟩ := (mem (List.getElem?_eq_getElem lt)).1 stuck
      exact ⟨d, cycle⟩
    · rintro _ ⟨⟩
      rw [eq_filter_of_sublist sub List.nodup_range]
      refine congrArg AssemblyError.cycle (filterMap_filter_range classes _ fun i c hi => ?_)
      exact decide_eq_decide.2 (mem hi)

/-- A cow and an ox that specialize each other, a calf below the cow, and a goat that specializes
itself and a class that is not in the list. -/
def herd : List ClassDef :=
  [⟨⟨"calf", "Calf"⟩, [⟨"cow", "Cow"⟩]⟩,
   ⟨⟨"cow", "Cow"⟩, [⟨"ox", "Ox"⟩]⟩,
   ⟨⟨"goat", "Goat"⟩, [⟨"goat", "Goat"⟩, ⟨"animal", "Animal"⟩]⟩,
   ⟨⟨"ox", "Ox"⟩, [⟨"ox", "Ox"⟩, ⟨"cow", "Cow"⟩]⟩]

theorem classOrder_blames_cycles_herd :
    (herd.map (·.id)).Nodup ∧ classOrder herd = .error (.cycle ["Calf", "Cow", "Ox"]) := by
  have distinct : (herd.map (·.id)).Nodup := by decide
  refine ⟨distinct, ?_⟩
  obtain ⟨fails, blames⟩ := classOrder_blames_cycles herd distinct
  have calf_cow : Specializes herd herd[0] herd[1] := by constructor <;> decide
  have cow_ox : Specializes herd herd[1] herd[3] := by constructor <;> decide
  have ox_cow : Specializes herd herd[3] herd[1] := by constructor <;> decide
  have circle : TransGen (Specializes herd) herd[1] herd[1] := .tail (.single cow_ox) ox_cow
  have goat : ¬LeadsToCycle (Specializes herd) herd[2] := by
    intro leads
    obtain ⟨d, first, -⟩ := leads.exists_step
    have alone : ∀ d ∈ herd, d.id ≠ herd[2].id → ¬∃ g ∈ herd[2].generals, g.id = d.id := by decide
    exact alone d first.general_mem first.other first.general
  have each : ∀ c ∈ herd, LeadsToCycle (Specializes herd) c ↔ c.name ≠ "Goat" := by
    intro c hc
    rcases List.mem_cons.1 hc with rfl | hc
    · exact iff_of_true (.head calf_cow (.of_cycle circle)) (by decide)
    rcases List.mem_cons.1 hc with rfl | hc
    · exact iff_of_true (.of_cycle circle) (by decide)
    rcases List.mem_cons.1 hc with rfl | hc
    · exact iff_of_false goat (by decide)
    rw [List.mem_singleton.1 hc]
    exact iff_of_true (.head ox_cow (.of_cycle circle)) (by decide)
  obtain ⟨names, h⟩ := fails.2 ⟨_, circle⟩
  rw [h, blames _ h]
  classical
  have kept : herd.filter (fun c => LeadsToCycle (Specializes herd) c) =
      herd.filter (·.name != "Goat") :=
    List.filter_congr fun c hc => by rw [Bool.eq_iff_iff, decide_eq_true_iff, each c hc, bne_iff_ne]
  rw [kept]
  rfl

end ModelCompiler.Source
