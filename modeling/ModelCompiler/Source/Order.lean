/-! # Dependency order

Each number waits for its dependencies.  The numbers that wait for nothing are ready, the least of
them is taken, and whatever waits for it waits for one dependency less. -/

namespace ModelCompiler.Source

/-- Why numbers cannot be ordered. -/
inductive OrderError where
  | outOfRange (i : Nat) (dependency : Int)
  | cycle (stuck : List Nat)
deriving DecidableEq, Repr

namespace OrderError

def cycleText : String := "cycle detected"

def message : OrderError → String
  | .outOfRange i d =>
    "dependency index out of range: " ++ toString i ++ " depends on " ++ toString d
  | .cycle _ => cycleText

end OrderError

/-! ## Waiting -/

/-- How many dependencies each number waits for, and the numbers that wait for each of them. A
dependency that is given twice is waited for twice. -/
structure Edges where
  counts : Array Int
  followers : Array (List Nat)
deriving DecidableEq, Repr

namespace Edges

/-- No number below `n` waits for anything. -/
def empty (n : Nat) : Edges where
  counts := Array.replicate n 0
  followers := Array.replicate n []

/-- Lets `i` wait for `d` once more. -/
def add (e : Edges) (i d : Nat) : Edges where
  counts := e.counts.modify i (· + 1)
  followers := e.followers.modify d (· ++ [i])

/-- Lets `i` wait for its dependencies, each of which has to be a number below `n`. -/
def addAll (n i : Nat) : Edges → List Int → Except OrderError Edges
  | e, [] => .ok e
  | e, d :: ds =>
    if d < 0 ∨ (n : Int) ≤ d then .error (.outOfRange i d) else (e.add i d.toNat).addAll n i ds

/-- What each number below `n` waits for. -/
def ofDependencies (n : Nat) (deps : Nat → List Int) : Except OrderError Edges :=
  (List.range n).foldlM (fun e i => e.addAll n i (deps i)) (empty n)

end Edges

/-! ## Sorted lists -/

/-- The place of the first number from `lo` on that is not below `x`, in a sorted list, if there is
one before `hi`, and `hi` otherwise. -/
def searchBetween (l : List Nat) (x lo hi : Nat) : Nat :=
  if lo < hi then
    let middle := (lo + hi) / 2
    if (l[middle]?).any (x ≤ ·) then searchBetween l x lo middle
    else searchBetween l x (middle + 1) hi
  else lo
termination_by hi - lo

/-- Puts a number into a sorted list, before all that are not below it. -/
def insertSorted (l : List Nat) (x : Nat) : List Nat :=
  let place := searchBetween l x 0 l.length
  l.take place ++ x :: l.drop place

@[simp] theorem length_insertSorted (l : List Nat) (x : Nat) :
    (insertSorted l x).length = l.length + 1 := by
  simp only [insertSorted, List.length_append, List.length_cons, List.length_take,
    List.length_drop]
  omega

/-- The numbers that wait for `i`, in order. -/
def Edges.followersOf (e : Edges) (i : Nat) : List Nat :=
  ((e.followers[i]?).getD []).foldl insertSorted []

/-! ## Taking -/

/-- What each number still waits for, the numbers that are ready, in order, and those that have been
taken. -/
structure Sorting where
  counts : Array Int
  ready : List Nat
  order : List Nat := []
deriving DecidableEq, Repr

namespace Sorting

/-- Nothing has been taken. -/
def start (n : Nat) (e : Edges) : Sorting where
  counts := e.counts
  ready := (List.range n).filter fun i => e.counts[i]? == some 0

/-- Lets a number wait for one dependency less; when that was the last one, the number is ready. -/
def release (s : Sorting) (j : Nat) : Sorting :=
  let counts := s.counts.modify j (· - 1)
  { s with counts, ready := if counts[j]? = some 0 then insertSorted s.ready j else s.ready }

/-- How many numbers are ready or wait for something. -/
def size (s : Sorting) : Nat := s.counts.toList.countP (0 < ·) + s.ready.length

theorem countP_modify_pred (l : List Int) (j : Nat) :
    (l.modify j (· - 1)).countP (0 < ·) + ((l.modify j (· - 1))[j]? == some 0).toNat =
      l.countP (0 < ·) := by
  induction l generalizing j with
  | nil => simp
  | cons a l ih =>
    cases j with
    | zero =>
      by_cases last : a = 1
      · simp [last]
      · have above : 1 < a ↔ 0 < a := by omega
        have other : (a - 1 == 0) = false := beq_false_of_ne (by omega)
        simp [List.countP_cons, above, other]
    | succ j =>
      rw [List.modify_succ_cons, List.getElem?_cons_succ, List.countP_cons, List.countP_cons,
        ← ih j]
      omega

/-- A number becomes ready when it has nothing more to wait for. -/
theorem size_release (s : Sorting) (j : Nat) : (s.release j).size = s.size := by
  have counted := countP_modify_pred s.counts.toList j
  simp only [release, size, Array.toList_modify, ← Array.getElem?_toList]
  split
  · rename_i zero
    rw [zero] at counted
    simp at counted ⊢
    omega
  · rename_i other
    rw [beq_false_of_ne other] at counted
    simp at counted ⊢
    omega

theorem size_foldl_release (s : Sorting) (js : List Nat) : (js.foldl release s).size = s.size := by
  induction js generalizing s with
  | nil => rfl
  | cons j js ih => rw [List.foldl_cons, ih, size_release]

/-- Takes the least number that is ready, again and again. -/
def drain (followersOf : Nat → List Nat) (s : Sorting) : Sorting :=
  match _h : s.ready with
  | [] => s
  | i :: ready =>
    drain followersOf ((followersOf i).foldl release { s with ready, order := s.order ++ [i] })
termination_by s.size
decreasing_by
  rw [size_foldl_release]
  simp only [size, _h, List.length_cons]
  omega

end Sorting

/-- The numbers below `n` in dependency order, the least first wherever there is a choice. -/
def dependencyOrder (n : Nat) (deps : Nat → List Int) : Except OrderError (List Nat) := do
  let e ← Edges.ofDependencies n deps
  let s := Sorting.drain e.followersOf (.start n e)
  if s.order.length = n then .ok s.order
  else .error (.cycle ((List.range n).filter fun i => (s.counts[i]?).any (0 < ·)))

end ModelCompiler.Source
