import Mathlib.Data.List.Nodup
import Mathlib.Data.List.Perm.Basic

/-!
# Taking the least number first

The rule that a dependency order follows: of the numbers that are left the first one all of whose
dependencies have been taken is taken next.  However long this goes on, nothing gets lost and each
number was taken after its dependencies.
-/

namespace ModelCompiler.Source

/-- In a list of numbers, the last taken first, each has its dependencies behind it. -/
def Supported (deps : Nat → List Int) : List Nat → Prop
  | [] => True
  | i :: rest => (∀ d ∈ deps i, d.toNat ∈ rest) ∧ Supported deps rest

namespace Supported

variable {deps : Nat → List Int} {i : Nat} {d : Int}

theorem mem_of_append {a b : List Nat} (h : Supported deps (a ++ i :: b)) (hd : d ∈ deps i) :
    d.toNat ∈ b := by
  induction a with
  | nil => exact h.1 d hd
  | cons x a ih => exact ih h.2

/-- With a number its dependencies have been taken. -/
theorem mem {l : List Nat} (h : Supported deps l) (hi : i ∈ l) (hd : d ∈ deps i) : d.toNat ∈ l := by
  obtain ⟨a, b, rfl⟩ := List.append_of_mem hi
  exact List.mem_append_right a (List.mem_cons_of_mem i (h.mem_of_append hd))

end Supported

/-- Whether all dependencies of a number have been taken. -/
def admits (deps : Nat → List Int) (taken : List Nat) (i : Nat) : Bool :=
  (deps i).all fun d => taken.contains d.toNat

theorem admits_iff {deps : Nat → List Int} {taken : List Nat} {i : Nat} :
    admits deps taken i = true ↔ ∀ d ∈ deps i, d.toNat ∈ taken := by
  simp only [admits, List.all_eq_true, List.contains_iff_mem]

/-- Takes up to `steps` numbers from those that are left: what was taken, the last one first, and
what is left. -/
def take (deps : Nat → List Int) : Nat → List Nat → List Nat → List Nat × List Nat
  | 0, taken, left => (taken, left)
  | steps + 1, taken, left =>
    match left.find? (admits deps taken) with
    | none => (taken, left)
    | some i => take deps steps (i :: taken) (left.erase i)

/-- What holds while numbers are taken from `all`: nothing gets lost, and each number was taken
after its dependencies. -/
structure Sound (deps : Nat → List Int) (all taken left : List Nat) : Prop where
  perm : (taken ++ left).Perm all
  supported : Supported deps taken

open scoped List

namespace Sound

variable {deps : Nat → List Int} {all taken left : List Nat}

theorem start (deps : Nat → List Int) (all : List Nat) : Sound deps all [] all where
  perm := List.Perm.refl all
  supported := trivial

/-- Taking a number that is admitted keeps all of it. -/
theorem add (h : Sound deps all taken left) {i : Nat}
    (hi : left.find? (admits deps taken) = some i) :
    Sound deps all (i :: taken) (left.erase i) where
  perm := by
    have hm : i ∈ left := List.mem_of_find?_eq_some hi
    calc (i :: taken) ++ left.erase i
      _ ~ taken ++ i :: left.erase i := List.perm_middle.symm
      _ ~ taken ++ left := (List.perm_cons_erase hm).symm.append_left taken
      _ ~ all := h.perm
  supported := ⟨admits_iff.1 (List.find?_some hi), h.supported⟩

end Sound

/-- However many numbers are taken, the invariant is kept. -/
theorem sound_take {deps : Nat → List Int} {all : List Nat} (steps : Nat) {taken left : List Nat}
    (h : Sound deps all taken left) :
    Sound deps all (take deps steps taken left).1 (take deps steps taken left).2 := by
  induction steps generalizing taken left with
  | zero => exact h
  | succ steps ih =>
    rw [take]
    split
    · exact h
    · rename_i i hi
      exact ih (h.add hi)

/-- After enough steps nothing that is left can be taken. -/
theorem not_admits_of_mem_take {deps : Nat → List Int} (steps : Nat) {taken left : List Nat}
    (enough : left.length ≤ steps) {i : Nat} (hi : i ∈ (take deps steps taken left).2) :
    admits deps (take deps steps taken left).1 i = false := by
  induction steps generalizing taken left with
  | zero =>
    rw [take, List.eq_nil_of_length_eq_zero (Nat.le_zero.1 enough)] at hi
    cases hi
  | succ steps ih =>
    rw [take] at hi ⊢
    cases found : left.find? (admits deps taken) with
    | none =>
      rw [found] at hi
      exact Bool.eq_false_iff.2 (List.find?_eq_none.1 found i hi)
    | some k =>
      rw [found] at hi
      refine ih ?_ hi
      rw [List.length_erase_of_mem (List.mem_of_find?_eq_some found)]
      exact Nat.sub_le_of_le_add enough

theorem sublist_take {deps : Nat → List Int} (steps : Nat) (taken left : List Nat) :
    (take deps steps taken left).2.Sublist left := by
  induction steps generalizing taken left with
  | zero => exact List.Sublist.refl left
  | succ steps ih =>
    rw [take]
    split
    · exact List.Sublist.refl left
    · exact (ih _ _).trans List.erase_sublist

end ModelCompiler.Source
