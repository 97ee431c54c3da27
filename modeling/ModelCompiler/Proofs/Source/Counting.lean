import Mathlib.Data.List.Count
import Mathlib.Data.List.Find
import Mathlib.Data.List.Pairwise
import Mathlib.Data.List.Sort
import ModelCompiler.Proofs.Source.Greedy
import ModelCompiler.Source.Order

/-!
# Counting what numbers wait for

The counter of a number is the number of its dependencies that have not been taken, each counted as
often as it is given, and the ready list has the numbers that are left and whose counters are zero,
the least first.  Main statement: the numbers are taken by the greedy rule, and when nothing is
ready any more the numbers that are left are those whose counters are positive.
-/

namespace ModelCompiler.Source

open scoped List

/-! ## Sorted insertion -/

section Insertion

variable {l : List Nat} {x : Nat}

/-- The search ends where the numbers below `x` end. -/
theorem searchBetween_spec (sorted : l.Pairwise (· ≤ ·)) {lo hi : Nat} (ordered : lo ≤ hi)
    (bounded : hi ≤ l.length) (below : ∀ i a, l[i]? = some a → i < lo → a < x)
    (above : ∀ i a, l[i]? = some a → hi ≤ i → x ≤ a) :
    (∀ i a, l[i]? = some a → i < searchBetween l x lo hi → a < x) ∧
      ∀ i a, l[i]? = some a → searchBetween l x lo hi ≤ i → x ≤ a := by
  have mono {i j a b : Nat} (ha : l[i]? = some a) (hb : l[j]? = some b) (le : i ≤ j) : a ≤ b := by
    obtain ⟨hi, rfl⟩ := List.getElem?_eq_some_iff.1 ha
    obtain ⟨hj, rfl⟩ := List.getElem?_eq_some_iff.1 hb
    exact sorted.rel_get_of_le (a := ⟨i, hi⟩) (b := ⟨j, hj⟩) le
  fun_induction searchBetween l x lo hi with
  | case1 lo hi lt middle found ih =>
    refine ih (by omega) (by omega) below fun i a ha le => ?_
    obtain ⟨b, hb, hx⟩ := (Option.any_eq_true _ _).1 found
    exact (of_decide_eq_true hx).trans (mono hb ha le)
  | case2 lo hi lt middle missed ih =>
    refine ih (by omega) (by omega) (fun i a ha less => ?_) above
    have inside : middle < l.length := by omega
    have hb : l[middle]? = some l[middle] := List.getElem?_eq_getElem inside
    have small : l[middle] < x := by simpa [hb] using missed
    exact (mono ha hb (by omega)).trans_lt small
  | case3 lo hi done => exact ⟨below, fun i a ha le => above i a ha (by omega)⟩

theorem perm_insertSorted (l : List Nat) (x : Nat) : (insertSorted l x).Perm (x :: l) := by
  have whole := List.take_append_drop (searchBetween l x 0 l.length) l
  calc insertSorted l x
    _ ~ x :: (l.take (searchBetween l x 0 l.length) ++ l.drop (searchBetween l x 0 l.length)) :=
      List.perm_middle
    _ ~ x :: l := by rw [whole]

theorem pairwise_insertSorted (sorted : l.Pairwise (· ≤ ·)) (x : Nat) :
    (insertSorted l x).Pairwise (· ≤ ·) := by
  obtain ⟨before, after⟩ := searchBetween_spec (x := x) sorted (Nat.zero_le _) le_rfl (by simp)
    (fun i a ha le => absurd (List.getElem?_eq_some_iff.1 ha).1 (Nat.not_lt.2 le))
  have small : ∀ a ∈ l.take (searchBetween l x 0 l.length), a < x := by
    intro a ha
    obtain ⟨i, hi⟩ := List.mem_iff_getElem?.1 ha
    rw [List.getElem?_take] at hi
    split at hi
    · rename_i lt
      exact before i a hi lt
    · cases hi
  have great : ∀ a ∈ l.drop (searchBetween l x 0 l.length), x ≤ a := by
    intro a ha
    obtain ⟨i, hi⟩ := List.mem_iff_getElem?.1 ha
    rw [List.getElem?_drop] at hi
    exact after _ a hi (Nat.le_add_right _ _)
  refine List.pairwise_append.2 ⟨sorted.sublist (List.take_sublist _ _),
    List.pairwise_cons.2 ⟨great, sorted.sublist (List.drop_sublist _ _)⟩, fun a ha b hb => ?_⟩
  rcases List.mem_cons.1 hb with rfl | hb
  · exact (small a ha).le
  · exact (small a ha).le.trans (great b hb)

@[simp] theorem mem_insertSorted {y : Nat} : y ∈ insertSorted l x ↔ y = x ∨ y ∈ l := by
  rw [(perm_insertSorted l x).mem_iff, List.mem_cons]

/-- A new number finds its place between the others. -/
theorem strictly_insertSorted (sorted : l.Pairwise (· < ·)) (fresh : x ∉ l) :
    (insertSorted l x).Pairwise (· < ·) := by
  have weakly := pairwise_insertSorted (sorted.imp Nat.le_of_lt) x
  have nodup : (insertSorted l x).Nodup :=
    (perm_insertSorted l x).nodup_iff.2 (List.nodup_cons.2 ⟨fresh, sorted.imp Nat.ne_of_lt⟩)
  exact weakly.imp₂ (fun _ _ => Nat.lt_of_le_of_ne) nodup

end Insertion

/-! ## What waits for what -/

/-- The first dependency that is not a number below `n`, and the number that has it. -/
def outOfRange? (n : Nat) (deps : Nat → List Int) : Option (Nat × Int) :=
  (List.range n).findSome? fun i => ((deps i).find? fun d => d < 0 ∨ (n : Int) ≤ d).map (i, ·)

namespace Edges

/-- Lets `i` wait for its dependencies, whichever they are. -/
def addRow (deps : Nat → List Int) (e : Edges) (i : Nat) : Edges :=
  (deps i).foldl (fun e d => e.add i d.toNat) e

theorem addAll_eq (n i : Nat) (e : Edges) (ds : List Int) :
    e.addAll n i ds =
      match ds.find? fun d => d < 0 ∨ (n : Int) ≤ d with
      | some d => .error (.outOfRange i d)
      | none => .ok (ds.foldl (fun e d => e.add i d.toNat) e) := by
  induction ds generalizing e with
  | nil => rfl
  | cons d ds ih =>
    rw [addAll, List.find?_cons]
    by_cases outside : d < 0 ∨ (n : Int) ≤ d
    · simp [outside]
    · rw [if_neg outside, ih]
      simp [outside]

theorem ofDependencies_eq (n : Nat) (deps : Nat → List Int) :
    ofDependencies n deps =
      match outOfRange? n deps with
      | some (i, d) => .error (.outOfRange i d)
      | none => .ok ((List.range n).foldl (addRow deps) (empty n)) := by
  unfold ofDependencies outOfRange?
  generalize List.range n = numbers, empty n = e
  induction numbers generalizing e with
  | nil => rfl
  | cons i numbers ih =>
    rw [List.foldlM_cons, addAll_eq, List.findSome?_cons]
    cases (deps i).find? fun d => d < 0 ∨ (n : Int) ≤ d with
    | some d => rfl
    | none => exact ih _

variable {deps : Nat → List Int}

theorem addRow_counts (e : Edges) (i j : Nat) :
    (e.addRow deps i).counts[j]? =
      e.counts[j]?.map (· + if i = j then ((deps i).length : Int) else 0) := by
  unfold addRow
  induction deps i generalizing e with
  | nil => simp
  | cons d ds ih =>
    rw [List.foldl_cons, ih, add, Array.getElem?_modify]
    split
    · simp only [Option.map_map, Function.comp_def, List.length_cons, *]
      congr 1
      funext c
      push_cast
      omega
    · rfl

theorem addRow_followers (e : Edges) (i k : Nat) :
    (e.addRow deps i).followers[k]? =
      e.followers[k]?.map (· ++ List.replicate ((deps i).countP (·.toNat = k)) i) := by
  unfold addRow
  induction deps i generalizing e with
  | nil => simp
  | cons d ds ih =>
    rw [List.foldl_cons, ih, add, Array.getElem?_modify, List.countP_cons]
    split
    · simp [*, Option.map_map, Function.comp_def, List.replicate_succ]
    · simp [*]

/-- Adding rows one after the other, each row once, adds up. -/
theorem foldl_addRow_counts (e : Edges) {numbers : List Nat} (nodup : numbers.Nodup) (j : Nat) :
    (numbers.foldl (addRow deps) e).counts[j]? =
      e.counts[j]?.map (· + if j ∈ numbers then ((deps j).length : Int) else 0) := by
  induction numbers generalizing e with
  | nil => simp
  | cons i numbers ih =>
    obtain ⟨fresh, nodup⟩ := List.nodup_cons.1 nodup
    rw [List.foldl_cons, ih _ nodup, addRow_counts]
    by_cases same : i = j
    · subst same
      simp [fresh, Function.comp_def]
    · simp [same, Ne.symm same]

theorem foldl_addRow_followers (e : Edges) (numbers : List Nat) (k : Nat) :
    (numbers.foldl (addRow deps) e).followers[k]? =
      e.followers[k]?.map (· ++ numbers.flatMap fun i =>
        List.replicate ((deps i).countP (·.toNat = k)) i) := by
  induction numbers generalizing e with
  | nil => simp
  | cons i numbers ih =>
    rw [List.foldl_cons, ih, addRow_followers]
    simp [Option.map_map, Function.comp_def]

/-- The edges of the dependencies of the numbers below `n`: each number starts with all its
dependencies to wait for, and follows each of them as often as it has it. -/
structure Describes (n : Nat) (deps : Nat → List Int) (e : Edges) : Prop where
  counts : ∀ j < n, e.counts[j]? = some ((deps j).length : Int)
  followers : ∀ k < n, ∀ j, (e.followersOf k).count j =
    if j < n then (deps j).countP (·.toNat = k) else 0

theorem perm_foldl_insertSorted (l m : List Nat) : (m.foldl insertSorted l).Perm (m ++ l) := by
  induction m generalizing l with
  | nil => exact .refl l
  | cons x m ih =>
    calc m.foldl insertSorted (insertSorted l x)
      _ ~ m ++ insertSorted l x := ih _
      _ ~ m ++ x :: l := (perm_insertSorted l x).append_left m
      _ ~ x :: (m ++ l) := List.perm_middle

theorem count_flatMap_replicate (f : Nat → Nat) (n j : Nat) :
    ((List.range n).flatMap fun i => List.replicate (f i) i).count j =
      if j < n then f j else 0 := by
  induction n with
  | zero => simp
  | succ n ih =>
    rw [List.range_succ, List.flatMap_append, List.count_append, ih, List.flatMap_singleton,
      List.count_replicate]
    grind

theorem describes_foldl_addRow (n : Nat) (deps : Nat → List Int) :
    ((List.range n).foldl (addRow deps) (empty n)).Describes n deps where
  counts j hj := by
    rw [foldl_addRow_counts _ List.nodup_range]
    simp [empty, hj]
  followers k hk j := by
    rw [followersOf, foldl_addRow_followers, (perm_foldl_insertSorted _ _).count_eq]
    simp [empty, hk, count_flatMap_replicate]

end Edges

/-! ## Taking what is ready -/

/-- How many dependencies a number has that have not been taken. -/
def missing (deps : Nat → List Int) (taken : List Nat) (j : Nat) : Nat :=
  (deps j).countP (·.toNat ∉ taken)

theorem missing_eq_zero_iff {deps : Nat → List Int} {taken : List Nat} {j : Nat} :
    missing deps taken j = 0 ↔ ∀ d ∈ deps j, d.toNat ∈ taken := by
  simp [missing, List.countP_eq_zero]

/-- A number that is taken is not missing any more. -/
theorem missing_concat (deps : Nat → List Int) {taken : List Nat} {i : Nat} (new : i ∉ taken)
    (j : Nat) :
    missing deps (taken ++ [i]) j = missing deps taken j - (deps j).countP (·.toNat = i) ∧
      (deps j).countP (·.toNat = i) ≤ missing deps taken j := by
  simp only [missing]
  induction deps j with
  | nil => simp
  | cons d ds ih =>
    simp only [List.countP_cons]
    grind

namespace Sorting

/-- What holds of the counters and of the ready list while `waits` says what each number still waits
for. -/
structure Counted (n : Nat) (waits : Nat → Nat) (s : Sorting) : Prop where
  counts : ∀ j < n, s.counts[j]? = some (waits j : Int)
  sorted : s.ready.Pairwise (· < ·)
  mem_ready : ∀ j, j ∈ s.ready ↔ j < n ∧ j ∉ s.order ∧ waits j = 0

variable {n : Nat} {waits : Nat → Nat} {s : Sorting}

theorem Counted.congr {waits' : Nat → Nat} (h : s.Counted n waits)
    (same : ∀ j < n, waits j = waits' j) : s.Counted n waits' where
  counts j hj := by rw [h.counts j hj, same j hj]
  sorted := h.sorted
  mem_ready j := (h.mem_ready j).trans (and_congr_right fun hj => by rw [same j hj])

@[simp] theorem order_foldl_release (s : Sorting) (js : List Nat) :
    (js.foldl release s).order = s.order := by
  induction js generalizing s with
  | nil => rfl
  | cons j js ih => rw [List.foldl_cons, ih, release]

/-- Releasing a number that waits keeps the counters and the ready list in step. -/
theorem Counted.release (h : s.Counted n waits) {j : Nat} (hj : j < n) (untaken : j ∉ s.order)
    (some : 0 < waits j) :
    (s.release j).Counted n fun k => waits k - if j = k then 1 else 0 := by
  have fresh : j ∉ s.ready := fun ready => Nat.ne_of_gt some ((h.mem_ready j).1 ready).2.2
  have last : (s.counts.modify j (· - 1))[j]? = .some 0 ↔ waits j = 1 := by
    rw [Array.getElem?_modify, if_pos rfl, h.counts j hj, Option.map_some, Option.some_inj]
    omega
  refine ⟨fun k hk => ?_, ?_, fun k => ?_⟩
  · rw [Sorting.release, Array.getElem?_modify, h.counts k hk]
    by_cases same : j = k
    · subst same
      simp
      omega
    · simp [same]
  · simp only [Sorting.release, last]
    split
    · exact strictly_insertSorted h.sorted fresh
    · exact h.sorted
  · simp only [Sorting.release, last]
    by_cases same : k = j
    · subst same
      split
      · simp_all
      · simp_all
        omega
    · rw [if_neg (Ne.symm same), Nat.sub_zero, ← h.mem_ready k]
      split
      · simp [same]
      · rfl

/-- Releasing numbers that wait at least as often as they are released. -/
theorem Counted.foldl_release (h : s.Counted n waits) (js : List Nat)
    (untaken : ∀ j ∈ js, j < n ∧ j ∉ s.order) (enough : ∀ j, js.count j ≤ waits j) :
    (js.foldl Sorting.release s).Counted n fun k => waits k - js.count k := by
  induction js generalizing s waits with
  | nil => exact h
  | cons j js ih =>
    obtain ⟨hj, fresh⟩ := untaken j List.mem_cons_self
    have some : 0 < waits j := by
      have := enough j
      rw [List.count_cons_self] at this
      omega
    have rest := ih (h.release hj fresh some) (fun k hk => untaken k (List.mem_cons_of_mem j hk))
      fun k => by
        have := enough k
        rw [List.count_cons] at this
        grind
    have counted (k : Nat) : waits k - (j :: js).count k =
        waits k - (if j = k then 1 else 0) - js.count k := by
      rw [List.count_cons, Nat.sub_sub, Nat.add_comm]
      grind
    simpa only [List.foldl_cons, counted] using rest

/-- What holds while numbers below `n` are taken: each was taken after its dependencies, and the
counters say how many dependencies are missing. -/
structure Sound (n : Nat) (deps : Nat → List Int) (s : Sorting) : Prop where
  counted : s.Counted n (missing deps s.order)
  supported : Supported deps s.order.reverse

/-- The numbers below `n` that have not been taken. -/
def left (n : Nat) (s : Sorting) : List Nat := (List.range n).filter (· ∉ s.order)

variable {deps : Nat → List Int} {e : Edges}

theorem sound_start (h : e.Describes n deps) : (start n e).Sound n deps where
  counted := by
    have none (j : Nat) : missing deps (start n e).order j = (deps j).length := by
      simp [missing, start]
    refine ⟨fun j hj => ?_, (List.pairwise_lt_range).filter _, fun j => ?_⟩
    · rw [none]
      exact h.counts j hj
    · rw [none, start, List.mem_filter, List.mem_range]
      refine and_congr_right fun hj => ?_
      rw [h.counts j hj]
      simp
  supported := trivial

/-- The ready list has the numbers that are left and can be taken, the least first. -/
theorem Sound.ready_eq (h : s.Sound n deps) :
    s.ready = (s.left n).filter (admits deps s.order.reverse) := by
  refine (h.counted.sorted.eq_of_mem_iff ((List.pairwise_lt_range.filter _).filter _) fun j => ?_)
  rw [h.counted.mem_ready, left, List.mem_filter, List.mem_filter, List.mem_range, admits_iff,
    missing_eq_zero_iff]
  simp [and_assoc]

/-- Taking the first number that is ready keeps all of it: what waits for it, each number as often
as it depends on it, has not been taken. -/
theorem Sound.step (h : s.Sound n deps) (he : e.Describes n deps) {i : Nat} {ready : List Nat}
    (first : s.ready = i :: ready) :
    ((e.followersOf i).foldl release { s with ready, order := s.order ++ [i] }).Sound n deps := by
  obtain ⟨hi, new, zero⟩ := (h.counted.mem_ready i).1 (first ▸ List.mem_cons_self)
  have supported : Supported deps (s.order ++ [i]).reverse := by
    rw [List.reverse_concat]
    exact ⟨by simpa using missing_eq_zero_iff.1 zero, h.supported⟩
  have sorted := h.counted.sorted
  rw [first] at sorted
  have taken : Counted n (missing deps s.order) { s with ready, order := s.order ++ [i] } := by
    refine ⟨h.counted.counts, (List.pairwise_cons.1 sorted).2, fun j => ?_⟩
    have mem := h.counted.mem_ready j
    have behind : i ∉ ready := fun hi => Nat.lt_irrefl i ((List.pairwise_cons.1 sorted).1 i hi)
    rw [first, List.mem_cons] at mem
    simp only [List.mem_append, List.mem_singleton]
    grind
  have waiting (j : Nat) (hj : j ∈ e.followersOf i) : j < n ∧ j ∉ s.order ++ [i] := by
    have some := List.count_pos_iff.2 hj
    rw [he.followers i hi] at some
    split at some
    · rename_i lt
      obtain ⟨d, hd, rfl⟩ : ∃ d ∈ deps j, d.toNat = i := by simpa using some
      refine ⟨lt, fun early => new ?_⟩
      rcases List.mem_append.1 early with early | same
      · exact List.mem_reverse.1 (h.supported.mem (List.mem_reverse.2 early) hd)
      · exact missing_eq_zero_iff.1 zero d (List.mem_singleton.1 same ▸ hd)
    · cases some
  have enough (j : Nat) : (e.followersOf i).count j ≤ missing deps s.order j := by
    rw [he.followers i hi]
    split
    · exact (missing_concat deps new j).2
    · exact Nat.zero_le _
  have released := taken.foldl_release (e.followersOf i) waiting enough
  refine ⟨?_, by rwa [order_foldl_release]⟩
  rw [order_foldl_release]
  refine released.congr fun j hj => ?_
  rw [he.followers i hi, if_pos hj, (missing_concat deps new j).1]

theorem ready_drain (followersOf : Nat → List Nat) (s : Sorting) :
    (drain followersOf s).ready = [] := by
  fun_induction Sorting.drain followersOf s with
  | case1 s none => exact none
  | case2 s i ready first ih => exact ih

/-- When nothing is ready any more, the numbers that are left are those whose counters are
positive. -/
theorem Sound.left_eq (h : s.Sound n deps) (none : s.ready = []) :
    s.left n = (List.range n).filter fun j => (s.counts[j]?).any (0 < ·) := by
  refine List.filter_congr fun j hj => ?_
  have lt := List.mem_range.1 hj
  have ready := h.counted.mem_ready j
  rw [h.counted.counts j lt, Option.any_some, Bool.eq_iff_iff, decide_eq_true_iff,
    decide_eq_true_iff, Int.natCast_pos, Nat.pos_iff_ne_zero, not_iff_not]
  constructor
  · intro taken
    refine missing_eq_zero_iff.2 fun d hd => ?_
    exact List.mem_reverse.1 (h.supported.mem (List.mem_reverse.2 taken) hd)
  · intro zero
    by_contra untaken
    have := ready.2 ⟨lt, untaken, zero⟩
    rw [none] at this
    cases this

/-- Taking what is ready until nothing is ready is taking what the greedy rule says. -/
theorem Sound.drain (h : s.Sound n deps) (he : e.Describes n deps) :
    (drain e.followersOf s).Sound n deps ∧
      ∀ steps, (s.left n).length ≤ steps → take deps steps s.order.reverse (s.left n) =
        ((drain e.followersOf s).order.reverse, (drain e.followersOf s).left n) := by
  fun_induction Sorting.drain e.followersOf s with
  | case1 s none =>
    refine ⟨h, fun steps _ => ?_⟩
    have refused : (s.left n).find? (admits deps s.order.reverse) = .none := by
      rw [← List.head?_filter, ← h.ready_eq, none, List.head?_nil]
    cases steps with
    | zero => rfl
    | succ steps => rw [take, refused]
  | case2 s i ready first ih =>
    obtain ⟨sound, taken⟩ := ih (h.step he first)
    refine ⟨sound, fun steps enough => ?_⟩
    have found : (s.left n).find? (admits deps s.order.reverse) = some i := by
      rw [← List.head?_filter, ← h.ready_eq, first, List.head?_cons]
    have hi : i ∈ s.left n := List.mem_of_find?_eq_some found
    have remaining : (s.left n).erase i =
        ((e.followersOf i).foldl release { s with ready, order := s.order ++ [i] }).left n := by
      rw [left, left, order_foldl_release, (List.nodup_range.filter _).erase_eq_filter,
        List.filter_filter]
      exact List.filter_congr fun j _ => by grind
    have length := List.length_erase_of_mem hi
    have some := List.length_pos_of_mem hi
    obtain ⟨steps, rfl⟩ := Nat.exists_eq_succ_of_ne_zero (Nat.ne_of_gt (some.trans_le enough))
    rw [take, found]
    dsimp only
    rw [remaining, ← taken steps (by rw [← remaining]; omega), order_foldl_release,
      List.reverse_concat]

end Sorting

/-- The numbers are ordered by the greedy rule, and what cannot be ordered is what it leaves. -/
theorem dependencyOrder_eq (n : Nat) (deps : Nat → List Int) :
    dependencyOrder n deps =
      match outOfRange? n deps with
      | some (i, d) => .error (.outOfRange i d)
      | none =>
        if (take deps n [] (List.range n)).2 = [] then
          .ok (take deps n [] (List.range n)).1.reverse
        else .error (.cycle (take deps n [] (List.range n)).2) := by
  unfold dependencyOrder
  rw [Edges.ofDependencies_eq]
  cases outOfRange? n deps with
  | some p => rfl
  | none =>
    let e := (List.range n).foldl (Edges.addRow deps) (.empty n)
    have he : e.Describes n deps := Edges.describes_foldl_addRow n deps
    obtain ⟨sound, taken⟩ := (Sorting.sound_start he).drain he
    have all : (Sorting.start n e).left n = List.range n := by simp [Sorting.left, Sorting.start]
    have stuck := sound.left_eq (Sorting.ready_drain e.followersOf _)
    have greedy := taken n (by simp [all])
    rw [all, Sorting.start, List.reverse_nil, ← Sorting.start] at greedy
    have length := (sound_take n (.start deps (List.range n))).perm.length_eq
    rw [greedy, List.length_append, List.length_reverse, List.length_range] at length
    have done : (Sorting.drain e.followersOf (.start n e)).order.length = n ↔
        (Sorting.drain e.followersOf (.start n e)).left n = [] := by
      rw [← List.length_eq_zero_iff]
      dsimp only at length
      omega
    simp only [greedy, List.reverse_reverse, ← done]
    rw [stuck]
    rfl

end ModelCompiler.Source
