import Mathlib.Data.Fintype.EquivFin
import Mathlib.Data.List.Find
import Mathlib.Order.WellFounded
import ModelCompiler.Proofs.Source.Order

/-!
# The least of all dependency orders

Numbers can be ordered unless one of them depends on itself, directly or through others.  Of all
orders the one that is found is the least lexicographically: whatever order there is, its next
number could be taken at that moment, so the least number that can be taken does not come after it.
-/

namespace ModelCompiler.Source

open Relation

/-- The dependencies of the numbers below `n` are numbers below `n`. -/
def InRange (n : Nat) (deps : Nat → List Int) : Prop := ∀ i < n, ∀ d ∈ deps i, 0 ≤ d ∧ d < n

def DependsOn (deps : Nat → List Int) (i j : Nat) : Prop := (j : Int) ∈ deps i

/-- No number below `n` depends on itself, directly or through others. -/
def Acyclic (n : Nat) (deps : Nat → List Int) : Prop :=
  ∀ i < n, ¬TransGen (DependsOn deps) i i

/-- The numbers below `n`, each of them once and after all that it depends on. -/
structure IsOrder (n : Nat) (deps : Nat → List Int) (order : List Nat) : Prop where
  perm : order.Perm (List.range n)
  after : ∀ i < n, ∀ j, DependsOn deps i j → order.idxOf j < order.idxOf i

/-! ## Out of range -/

theorem outOfRange?_eq_none_iff {n : Nat} {deps : Nat → List Int} :
    outOfRange? n deps = none ↔ InRange n deps := by
  simp only [outOfRange?, InRange, List.findSome?_eq_none_iff, List.mem_range,
    Option.map_eq_none_iff, List.find?_eq_none, decide_eq_true_eq, not_or, not_lt, not_le]

theorem of_outOfRange?_eq_some {n : Nat} {deps : Nat → List Int} {i : Nat} {d : Int}
    (h : outOfRange? n deps = some (i, d)) : i < n ∧ d ∈ deps i ∧ ¬(0 ≤ d ∧ d < n) := by
  obtain ⟨k, hk, found⟩ := List.exists_of_findSome?_eq_some h
  obtain ⟨e, he, same⟩ := Option.map_eq_some_iff.1 found
  cases same
  refine ⟨List.mem_range.1 hk, List.mem_of_find?_eq_some he, ?_⟩
  have outside := List.find?_some he
  rw [decide_eq_true_eq] at outside
  omega

/-! ## Orders and cycles -/

/-- What a number depends on comes before it, so nothing comes before itself. -/
theorem IsOrder.acyclic {n : Nat} {deps : Nat → List Int} {order : List Nat}
    (h : IsOrder n deps order) (inRange : InRange n deps) : Acyclic n deps := by
  have descends {i j : Nat} (hi : i < n) (chain : TransGen (DependsOn deps) i j) :
      j < n ∧ order.idxOf j < order.idxOf i := by
    induction chain with
    | single hd => exact ⟨Int.ofNat_lt.1 (inRange i hi _ hd).2, h.after i hi _ hd⟩
    | tail _ hd ih =>
      exact ⟨Int.ofNat_lt.1 (inRange _ ih.1 _ hd).2, (h.after _ ih.1 _ hd).trans ih.2⟩
  intro i hi cycle
  exact Nat.lt_irrefl _ (descends hi cycle).2

/-- Of some numbers none of which depends on itself, directly or through others, one depends on
none of them. -/
theorem exists_independent {deps : Nat → List Int} {left : List Nat}
    (acyclic : ∀ i ∈ left, ¬TransGen (DependsOn deps) i i) (some : left ≠ []) :
    ∃ i ∈ left, ∀ j ∈ left, ¬DependsOn deps i j := by
  let under (j i : {i // i ∈ left}) : Prop := TransGen (DependsOn deps) i j
  have : IsTrans {i // i ∈ left} under := ⟨fun _ _ _ h k => TransGen.trans k h⟩
  have : Std.Irrefl under := ⟨fun i h => acyclic i i.2 h⟩
  have wf : WellFounded under := Finite.wellFounded_of_trans_of_irrefl under
  obtain ⟨k, hk⟩ := List.exists_mem_of_ne_nil left some
  obtain ⟨i, -, least⟩ := wf.has_min Set.univ ⟨⟨k, hk⟩, trivial⟩
  exact ⟨i, i.2, fun j hj hd => least ⟨j, hj⟩ trivial (TransGen.single hd)⟩

/-! ## What is taken -/

section Take

variable {n : Nat} {deps : Nat → List Int} {taken left : List Nat}

/-- When nothing that is left can be taken, each number that is left depends on another one. -/
theorem Sound.exists_missing (h : Sound deps (List.range n) taken left)
    (inRange : InRange n deps) (stuck : ∀ i ∈ left, admits deps taken i = false) {i : Nat}
    (hi : i ∈ left) : ∃ j ∈ left, DependsOn deps i j := by
  have known {j : Nat} : j ∈ taken ∨ j ∈ left ↔ j < n := by
    rw [← List.mem_append, h.perm.mem_iff, List.mem_range]
  by_contra none
  refine Bool.eq_false_iff.1 (stuck i hi) (admits_iff.2 fun d hd => ?_)
  obtain ⟨nonneg, lt⟩ := inRange i (known.1 (.inr hi)) d hd
  refine (known.2 ((Int.toNat_lt nonneg).2 lt)).resolve_right fun missing => none ⟨_, missing, ?_⟩
  rw [DependsOn, Int.toNat_of_nonneg nonneg]
  exact hd

/-- Without a cycle, nothing is left after enough steps. -/
theorem take_eq_nil (inRange : InRange n deps) (acyclic : Acyclic n deps) (steps : Nat)
    (h : Sound deps (List.range n) taken left) (enough : left.length ≤ steps) :
    (take deps steps taken left).2 = [] := by
  have sound := sound_take steps h
  have stuck (i : Nat) (hi : i ∈ (take deps steps taken left).2) :=
    not_admits_of_mem_take steps enough hi
  by_contra some
  have below {i : Nat} (hi : i ∈ (take deps steps taken left).2) : i < n :=
    List.mem_range.1 (sound.perm.mem_iff.1 (List.mem_append_right _ hi))
  obtain ⟨i, hi, independent⟩ := exists_independent (fun i hi => acyclic i (below hi)) some
  obtain ⟨j, hj, depends⟩ := sound.exists_missing inRange stuck hi
  exact independent j hj depends

/-- What is found in a sorted list is the least of what there is to find. -/
theorem le_of_find?_eq_some {l : List Nat} (sorted : l.Pairwise (· < ·)) {p : Nat → Bool}
    {i j : Nat} (found : l.find? p = some i) (hj : j ∈ l) (hp : p j = true) : i ≤ j := by
  obtain ⟨-, a, b, rfl, none⟩ := List.find?_eq_some_iff_append.1 found
  rcases List.mem_append.1 hj with early | late
  · have refused := none j early
    rw [hp] at refused
    cases refused
  · rcases List.mem_cons.1 late with rfl | later
    · exact Nat.le_refl j
    · have tail := (List.pairwise_append.1 sorted).2.1
      exact Nat.le_of_lt (List.rel_of_pairwise_cons tail later)

/-- However the numbers that are left may be ordered, what is taken from them comes first
lexicographically. -/
theorem take_least {all : List Nat} (steps : Nat) (h : Sound deps all taken left)
    (sorted : left.Pairwise (· < ·)) :
    ∃ chosen, (take deps steps taken left).1 = chosen.reverse ++ taken ∧
      ∀ l, l.Perm left → Supported deps (l.reverse ++ taken) → l ≠ chosen →
        List.Lex (· < ·) chosen l := by
  -- nothing comes before the empty list, which is what is chosen when no number is taken
  have stop : ∀ l : List Nat, l ≠ [] → List.Lex (· < ·) [] l := by
    intro l hl
    cases l with
    | nil => exact absurd rfl hl
    | cons x l => exact .nil
  induction steps generalizing taken left with
  | zero => exact ⟨[], rfl, fun l _ _ hl => stop l hl⟩
  | succ steps ih =>
    rw [take]
    cases found : left.find? (admits deps taken) with
    | none => exact ⟨[], rfl, fun l _ _ hl => stop l hl⟩
    | some i =>
      obtain ⟨chosen, order, least⟩ := ih (h.add found) (sorted.erase i)
      refine ⟨i :: chosen, by simpa using order, ?_⟩
      intro l perm supported ne
      cases l with
      | nil =>
        have hi : i ∈ left := List.mem_of_find?_eq_some found
        rw [← perm.mem_iff] at hi
        cases hi
      | cons x l =>
        obtain ⟨hx, rest⟩ := List.cons_perm_iff_perm_erase.1 perm
        have supported : Supported deps (l.reverse ++ x :: taken) := by
          simpa using supported
        have admitted : admits deps taken x = true :=
          admits_iff.2 fun d hd => supported.mem_of_append hd
        rcases Nat.lt_or_eq_of_le (le_of_find?_eq_some sorted found hx admitted) with lt | rfl
        · exact .rel lt
        · exact .cons (least l rest supported fun same => ne (same ▸ rfl))

end Take

/-! ## Dependency orders -/

/-- In a list without repetitions, what has a smaller index stands before. -/
theorem idxOf_lt_iff {a b : List Nat} {i j : Nat} (nodup : (a ++ i :: b).Nodup) :
    (a ++ i :: b).idxOf j < (a ++ i :: b).idxOf i ↔ j ∈ a := by
  have fresh : i ∉ a := fun hi =>
    (List.nodup_append.1 nodup).2.2 i hi i List.mem_cons_self rfl
  have at_i : (a ++ i :: b).idxOf i = a.length := by
    rw [List.idxOf_append_of_notMem fresh, List.idxOf_cons_self, Nat.add_zero]
  rw [at_i]
  constructor
  · intro lt
    by_contra absent
    rw [List.idxOf_append_of_notMem absent] at lt
    exact absurd lt (Nat.not_lt.2 (Nat.le_add_right _ _))
  · intro hj
    rw [List.idxOf_append_of_mem hj]
    exact List.idxOf_lt_length_iff.2 hj

/-- An order, read from its end, is supported. -/
theorem IsOrder.supported {n : Nat} {deps : Nat → List Int} (inRange : InRange n deps)
    {order : List Nat} (h : IsOrder n deps order) : Supported deps order.reverse := by
  have part : ∀ b a, order = a ++ b → Supported deps a.reverse := by
    intro b a
    induction a using List.reverseRecOn generalizing b with
    | nil => exact fun _ => trivial
    | append_singleton a i ih =>
      intro split
      rw [List.append_assoc, List.singleton_append] at split
      rw [List.reverse_concat]
      refine ⟨fun d hd => ?_, ih _ split⟩
      have nodup : (a ++ i :: b).Nodup := split ▸ h.perm.nodup_iff.2 List.nodup_range
      have hi : i < n := List.mem_range.1 (h.perm.mem_iff.1 (by simp [split]))
      obtain ⟨nonneg, -⟩ := inRange i hi d hd
      have earlier := h.after i hi d.toNat (by
        rw [DependsOn, Int.toNat_of_nonneg nonneg]
        exact hd)
      rw [split, idxOf_lt_iff nodup] at earlier
      exact List.mem_reverse.2 earlier
  exact part [] order (List.append_nil order).symm

/-- An order that is found is a permutation in which each number comes after its dependencies. -/
theorem isOrder_of_dependencyOrder {n : Nat} {deps : Nat → List Int} {order : List Nat}
    (h : dependencyOrder n deps = .ok order) : IsOrder n deps order := by
  obtain ⟨perm, after⟩ := dependencyOrder_spec h
  refine ⟨perm, fun i hi j hj => ?_⟩
  obtain ⟨a, b, split⟩ := List.append_of_mem (perm.mem_iff.2 (List.mem_range.2 hi))
  have nodup : (a ++ i :: b).Nodup := split ▸ perm.nodup_iff.2 List.nodup_range
  rw [split, idxOf_lt_iff nodup]
  simpa using after a i b split j hj

/-- A dependency outside the range is reported.  If there is none, there is an order if and only if
no number depends on itself, directly or through others, and the order that is found holds every
number once, each after its dependencies, and is lexicographically the least such order. -/
theorem dependencyOrder_least (n : Nat) (deps : Nat → List Int) :
    (¬InRange n deps → ∃ i d, dependencyOrder n deps = .error (.outOfRange i d) ∧
      i < n ∧ d ∈ deps i ∧ ¬(0 ≤ d ∧ d < n)) ∧
    (InRange n deps →
      ((∃ order, dependencyOrder n deps = .ok order) ↔ Acyclic n deps) ∧
      (¬Acyclic n deps → ∃ stuck, dependencyOrder n deps = .error (.cycle stuck)) ∧
      ∀ order, dependencyOrder n deps = .ok order →
        IsOrder n deps order ∧
        ∀ other, IsOrder n deps other → other ≠ order → List.Lex (· < ·) order other) := by
  constructor
  · intro outside
    rw [dependencyOrder_eq]
    cases h : outOfRange? n deps with
    | none => exact absurd (outOfRange?_eq_none_iff.1 h) outside
    | some p => exact ⟨p.1, p.2, rfl, of_outOfRange?_eq_some h⟩
  · intro inRange
    have start := Sound.start deps (List.range n)
    have outcome := dependencyOrder_eq n deps
    rw [outOfRange?_eq_none_iff.2 inRange] at outcome
    dsimp only at outcome
    have found : (∃ order, dependencyOrder n deps = .ok order) ↔ Acyclic n deps := by
      constructor
      · rintro ⟨order, h⟩
        exact (isOrder_of_dependencyOrder h).acyclic inRange
      · intro acyclic
        have none := take_eq_nil inRange acyclic n start (by simp)
        rw [if_pos none] at outcome
        exact ⟨_, outcome⟩
    refine ⟨found, ?_, ?_⟩
    · intro cyclic
      split at outcome
      · exact absurd (found.1 ⟨_, outcome⟩) cyclic
      · exact ⟨_, outcome⟩
    · intro order h
      refine ⟨isOrder_of_dependencyOrder h, ?_⟩
      obtain ⟨chosen, taken, least⟩ := take_least n start List.pairwise_lt_range
      have same : order = chosen := by
        rw [h] at outcome
        split at outcome
        · injection outcome with outcome
          simpa [taken] using outcome
        · cases outcome
      intro other isOrder ne
      rw [same] at ne ⊢
      exact least other isOrder.perm (by simpa using isOrder.supported inRange) ne

/-- Four numbers with two dependencies, one of them given twice: there are several orders, and the
least is found.  The first two of the numbers alone have a dependency outside their range, and a
number that depends on itself has no order. -/
theorem dependencyOrder_least_four :
    let deps : Nat → List Int := fun i => [[3, 3], [], [1], []].getD i []
    let circular : Nat → List Int := fun _ => [0]
    (dependencyOrder 4 deps = .ok [1, 2, 3, 0] ∧ Acyclic 4 deps ∧ IsOrder 4 deps [1, 3, 0, 2] ∧
      List.Lex (· < ·) [1, 2, 3, 0] [1, 3, 0, 2]) ∧
    (∃ i d, dependencyOrder 2 deps = .error (.outOfRange i d)) ∧
    ∃ stuck, dependencyOrder 1 circular = .error (.cycle stuck) := by
  intro deps circular
  have inRange : InRange 4 deps := by
    unfold InRange
    decide
  have ordered : dependencyOrder 4 deps = .ok [1, 2, 3, 0] := by
    decide +kernel
  have other : IsOrder 4 deps [1, 3, 0, 2] := by
    have after : ∀ i < 4, ∀ d ∈ deps i,
        [1, 3, 0, 2].idxOf d.toNat < [1, 3, 0, 2].idxOf i := by decide
    exact ⟨by decide, fun i hi j hj => by simpa using after i hi j hj⟩
  obtain ⟨found, -, least⟩ := (dependencyOrder_least 4 deps).2 inRange
  refine ⟨⟨ordered, found.1 ⟨_, ordered⟩, other, ?_⟩, ?_, ?_⟩
  · exact (least _ ordered).2 _ other (by decide)
  · have outside : ¬InRange 2 deps := by
      unfold InRange
      decide
    obtain ⟨i, d, h, -⟩ := (dependencyOrder_least 2 deps).1 outside
    exact ⟨i, d, h⟩
  · have inRange : InRange 1 circular := by
      unfold InRange
      decide
    refine ((dependencyOrder_least 1 circular).2 inRange).2.1 fun acyclic => ?_
    exact acyclic 0 (by decide) (TransGen.single List.mem_cons_self)

end ModelCompiler.Source
