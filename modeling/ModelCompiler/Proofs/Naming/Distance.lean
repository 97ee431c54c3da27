import Mathlib.Order.Bounds.Basic
import ModelCompiler.Naming.Distance

/-!
# The distance of two texts is the number of edits between them

An edit inserts, deletes or substitutes one character anywhere in a text.  Main statement: the
distance is the least number of edits that lead from one text to the other, hence a metric.

In between stands `cost`, which compares two texts from their first characters on.  One edit changes
the cost by one at most, so no run of edits is shorter than the cost, and the recursion of `cost`
describes a run of that many.  The table compares texts from their last characters on: when some of
the second text has been read, the entries of the row are the costs between what has been read and
the beginnings of the first text, all of them reversed.
-/

namespace ModelCompiler.Naming

/-! ## Edits -/

/-- One insertion, deletion or substitution of a single character. -/
inductive Edit : List Char → List Char → Prop
  | insert (u v : List Char) (c : Char) : Edit (u ++ v) (u ++ c :: v)
  | delete (u v : List Char) (c : Char) : Edit (u ++ c :: v) (u ++ v)
  | substitute (u v : List Char) (c d : Char) : Edit (u ++ c :: v) (u ++ d :: v)

/-- A number of edits, one after the other, leads from one text to another. -/
inductive EditsIn : Nat → List Char → List Char → Prop
  | refl (a : List Char) : EditsIn 0 a a
  | step {n : Nat} {a b c : List Char} : Edit a b → EditsIn n b c → EditsIn (n + 1) a c

variable {a b c : List Char} {m n : Nat}

namespace Edit

theorem symm (h : Edit a b) : Edit b a := by
  cases h with
  | insert u v c => exact .delete u v c
  | delete u v c => exact .insert u v c
  | substitute u v c d => exact .substitute u v d c

theorem cons (x : Char) (h : Edit a b) : Edit (x :: a) (x :: b) := by
  cases h with
  | insert u v c => exact .insert (x :: u) v c
  | delete u v c => exact .delete (x :: u) v c
  | substitute u v c d => exact .substitute (x :: u) v c d

theorem reverse (h : Edit a b) : Edit a.reverse b.reverse := by
  cases h with
  | insert u v c => simpa using Edit.insert v.reverse u.reverse c
  | delete u v c => simpa using Edit.delete v.reverse u.reverse c
  | substitute u v c d => simpa using Edit.substitute v.reverse u.reverse c d

theorem length_le (h : Edit a b) : a.length ≤ b.length + 1 := by
  cases h <;> simp only [List.length_append, List.length_cons] <;> omega

end Edit

namespace EditsIn

theorem single (h : Edit a b) : EditsIn 1 a b := .step h (.refl b)

theorem trans (h : EditsIn m a b) (h' : EditsIn n b c) : EditsIn (m + n) a c := by
  induction h with
  | refl => rwa [Nat.zero_add]
  | step first _ ih =>
    rw [Nat.add_right_comm]
    exact .step first (ih h')

theorem symm (h : EditsIn n a b) : EditsIn n b a := by
  induction h with
  | refl a => exact .refl a
  | step first _ ih => exact ih.trans (.single first.symm)

theorem cons (x : Char) (h : EditsIn n a b) : EditsIn n (x :: a) (x :: b) := by
  induction h with
  | refl a => exact .refl (x :: a)
  | step first _ ih => exact .step (first.cons x) ih

theorem reverse (h : EditsIn n a b) : EditsIn n a.reverse b.reverse := by
  induction h with
  | refl a => exact .refl a.reverse
  | step first _ ih => exact .step first.reverse ih

theorem reverse_iff : EditsIn n a.reverse b.reverse ↔ EditsIn n a b := by
  refine ⟨fun h => ?_, reverse⟩
  simpa using h.reverse

theorem zero_iff : EditsIn 0 a b ↔ a = b := by
  constructor
  · intro h
    cases h
    rfl
  · rintro rfl
    exact .refl a

/-- Every edit changes the length by one at most. -/
theorem length_le (h : EditsIn n a b) : a.length ≤ b.length + n := by
  induction h with
  | refl => exact Nat.le_refl _
  | step first _ ih =>
    have := first.length_le
    omega

/-- Every character is deleted. -/
theorem to_nil (a : List Char) : EditsIn a.length a [] := by
  induction a with
  | nil => exact .refl []
  | cons c a ih => exact .step (.delete [] a c) ih

theorem min (h : EditsIn m a b) (h' : EditsIn n a b) : EditsIn (Nat.min m n) a b := by
  rcases Nat.le_total m n with le | le
  · rwa [Nat.min_eq_min, Nat.min_eq_left le]
  · rwa [Nat.min_eq_min, Nat.min_eq_right le]

end EditsIn

/-! ## Costs -/

/-- The cost of making one text of another, from their first characters on. -/
def cost : List Char → List Char → Nat
  | [], b => b.length
  | a, [] => a.length
  | c :: a, d :: b =>
    min (min (cost (c :: a) b + 1) (cost a (d :: b) + 1)) (cost a b + if c = d then 0 else 1)

@[simp] theorem cost_nil_left (b : List Char) : cost [] b = b.length := by
  rw [cost]

@[simp] theorem cost_nil_right (a : List Char) : cost a [] = a.length := by
  cases a with
  | nil => exact cost_nil_left []
  | cons c a =>
    rw [cost]
    exact List.cons_ne_nil c a

theorem cost_cons_cons (c d : Char) (a b : List Char) : cost (c :: a) (d :: b) =
    min (min (cost (c :: a) b + 1) (cost a (d :: b) + 1)) (cost a b + if c = d then 0 else 1) := by
  rw [cost]

/-- The recursion of `cost` describes a run of edits. -/
theorem editsIn_cost (a b : List Char) : EditsIn (cost a b) a b := by
  fun_induction cost a b with
  | case1 b => exact (EditsIn.to_nil b).symm
  | case2 a => exact EditsIn.to_nil a
  | case3 c a d b inserting deleting keeping =>
    have insert : EditsIn (cost (c :: a) b + 1) (c :: a) (d :: b) :=
      inserting.trans (.single (.insert [] b d))
    have delete : EditsIn (cost a (d :: b) + 1) (c :: a) (d :: b) :=
      .step (.delete [] a c) deleting
    have keep : EditsIn (cost a b + if c = d then 0 else 1) (c :: a) (d :: b) := by
      split
      · rename_i same
        exact same ▸ keeping.cons c
      · exact .step (.substitute [] a c d) (keeping.cons d)
    exact (insert.min delete).min keep

theorem cost_self (a : List Char) : cost a a = 0 := by
  induction a with
  | nil => exact cost_nil_left []
  | cons c a ih =>
    rw [cost_cons_cons, if_pos rfl, ih]
    exact Nat.min_zero _

/-! ### One edit changes the cost by one at most -/

theorem cost_cons_left_le (c : Char) (a b : List Char) : cost (c :: a) b ≤ cost a b + 1 := by
  cases b with
  | nil => simp
  | cons d b =>
    rw [cost_cons_cons]
    omega

theorem cost_cons_right_le (d : Char) (a b : List Char) : cost a (d :: b) ≤ cost a b + 1 := by
  cases a with
  | nil => simp
  | cons c a =>
    rw [cost_cons_cons]
    omega

theorem cost_le_cost_cons_left (c : Char) (a b : List Char) : cost a b ≤ cost (c :: a) b + 1 := by
  induction b with
  | nil => simp; omega
  | cons d b ih =>
    have := cost_cons_right_le d a b
    rw [cost_cons_cons]
    omega

theorem cost_substitute_le (c d : Char) (a b : List Char) :
    cost (c :: a) b ≤ cost (d :: a) b + 1 := by
  induction b with
  | nil => simp
  | cons x b ih =>
    rw [cost_cons_cons, cost_cons_cons]
    split <;> split <;> omega

theorem cost_cons_le (c : Char) (h : ∀ x, cost a x ≤ cost b x + 1) (x : List Char) :
    cost (c :: a) x ≤ cost (c :: b) x + 1 := by
  induction x with
  | nil => simpa using h []
  | cons d x ih =>
    have inside := h (d :: x)
    have after := h x
    rw [cost_cons_cons, cost_cons_cons]
    omega

theorem Edit.cost_le (h : Edit a b) (x : List Char) : cost a x ≤ cost b x + 1 := by
  cases h with
  | insert u v c =>
    induction u generalizing x with
    | nil => exact cost_le_cost_cons_left c v x
    | cons d u ih => exact cost_cons_le d ih x
  | delete u v c =>
    induction u generalizing x with
    | nil => exact cost_cons_left_le c v x
    | cons d u ih => exact cost_cons_le d ih x
  | substitute u v c c' =>
    induction u generalizing x with
    | nil => exact cost_substitute_le c c' v x
    | cons d u ih => exact cost_cons_le d ih x

theorem EditsIn.cost_le (h : EditsIn n a b) : cost a b ≤ n := by
  induction h with
  | refl a => exact Nat.le_of_eq (cost_self a)
  | step first _ ih => exact (first.cost_le _).trans (Nat.succ_le_succ ih)

/-- The cost is the least number of edits. -/
theorem isLeast_cost (a b : List Char) : IsLeast {n | EditsIn n a b} (cost a b) :=
  ⟨editsIn_cost a b, fun _ h => h.cost_le⟩

/-- Characters are substituted as far as the shorter text goes. -/
theorem cost_le_max (a b : List Char) : cost a b ≤ max a.length b.length := by
  fun_induction cost a b with
  | case1 b => exact Nat.le_max_right _ _
  | case2 a => exact Nat.le_max_left _ _
  | case3 c a d b =>
    rw [List.length_cons, List.length_cons]
    split <;> omega

/-! ## Rows of the table -/

/-- The costs between `q` and each text that begins with `p`, reversed, and goes on along a text. -/
def costsAlong (q : List Char) : List Char → List Char → List Nat
  | p, [] => [cost p q]
  | p, c :: cs => cost p q :: costsAlong q (c :: p) cs

theorem costsAlong_eq_cons (q p cs : List Char) :
    costsAlong q p cs = cost p q :: (costsAlong q p cs).tail := by
  cases cs <;> rfl

/-- Each entry is made of those to its left, above it and above its left. -/
theorem rowTail_costsAlong (d : Char) (q p cs : List Char) :
    rowTail d cs (costsAlong q p cs) (cost p (d :: q)) = (costsAlong (d :: q) p cs).tail := by
  induction cs generalizing p with
  | nil => rfl
  | cons c cs ih =>
    have entry : min (min (cost (c :: p) q + 1) (cost p (d :: q) + 1))
        (cost p q + if c = d then 0 else 1) = cost (c :: p) (d :: q) :=
      (cost_cons_cons c d p q).symm
    rw [costsAlong, costsAlong_eq_cons, rowTail, entry, ← costsAlong_eq_cons, ih, costsAlong,
      List.tail_cons, ← costsAlong_eq_cons]

theorem nextRow_costsAlong (a q : List Char) (d : Char) :
    nextRow a (costsAlong q [] a) d = costsAlong (d :: q) [] a := by
  have first : cost [] q + 1 = cost [] (d :: q) := by simp
  have rest := rowTail_costsAlong d q [] a
  rw [costsAlong_eq_cons q] at rest ⊢
  rw [nextRow, first, rest, ← costsAlong_eq_cons]

/-- What a row holds when some of the second text has been read. -/
theorem foldl_nextRow (a b q : List Char) :
    b.foldl (nextRow a) (costsAlong q [] a) = costsAlong (b.reverse ++ q) [] a := by
  induction b generalizing q with
  | nil => rfl
  | cons d b ih =>
    rw [List.foldl_cons, nextRow_costsAlong, ih, List.reverse_cons, List.append_assoc,
      List.singleton_append]

theorem range'_eq_costsAlong (p cs : List Char) :
    List.range' p.length (cs.length + 1) = costsAlong [] p cs := by
  induction cs generalizing p with
  | nil => simp [costsAlong]
  | cons c cs ih =>
    rw [List.length_cons, List.range'_succ, costsAlong, ← ih, cost_nil_right, List.length_cons]

theorem getLast?_costsAlong (q p cs : List Char) :
    (costsAlong q p cs).getLast? = some (cost (cs.reverse ++ p) q) := by
  induction cs generalizing p with
  | nil => rfl
  | cons c cs ih =>
    rw [costsAlong, List.getLast?_cons, ih, Option.getD_some, List.reverse_cons,
      List.append_assoc, List.singleton_append]

theorem tableDistance_eq_cost (a b : List Char) :
    tableDistance a b = cost a.reverse b.reverse := by
  have first : firstRow a = costsAlong [] [] a := by
    rw [firstRow, List.range_eq_range', ← range'_eq_costsAlong]
    rfl
  rw [tableDistance, first, foldl_nextRow, getLast?_costsAlong, Option.getD_some, List.append_nil,
    List.append_nil]

theorem isLeast_tableDistance (a b : List Char) :
    IsLeast {n | EditsIn n a b} (tableDistance a b) := by
  have least := isLeast_cost a.reverse b.reverse
  simp only [EditsIn.reverse_iff] at least
  rwa [tableDistance_eq_cost]

/-! ## Distances -/

theorem setOf_editsIn_comm (a b : List Char) : {n | EditsIn n a b} = {n | EditsIn n b a} :=
  Set.ext fun _ => ⟨.symm, .symm⟩

/-- The shortcuts and the choice of the shorter text leave the distance as it is. -/
theorem distance_eq_cost (a b : List Char) : distance a b = cost a b := by
  refine IsLeast.unique ?_ (isLeast_cost a b)
  unfold distance
  split
  · rename_i same
    rw [← cost_self a, same]
    exact isLeast_cost b b
  · split
    · rename_i empty
      rw [List.isEmpty_iff.1 empty, ← cost_nil_left]
      exact isLeast_cost [] b
    · split
      · rename_i empty
        rw [List.isEmpty_iff.1 empty, ← cost_nil_right]
        exact isLeast_cost a []
      · split
        · rw [setOf_editsIn_comm]
          exact isLeast_tableDistance b a
        · exact isLeast_tableDistance a b

/-- The distance of two texts is the least number of insertions, deletions and substitutions of
single characters that lead from one to the other.  It is a metric, and it lies between the
difference of the two lengths and the greater of them. -/
theorem distance_least_edits (a b : List Char) :
    IsLeast {n | EditsIn n a b} (distance a b) ∧
    distance a b = distance b a ∧
    (distance a b = 0 ↔ a = b) ∧
    (∀ c, distance a c ≤ distance a b + distance b c) ∧
    max a.length b.length - min a.length b.length ≤ distance a b ∧
    distance a b ≤ max a.length b.length := by
  have least (a b : List Char) : IsLeast {n | EditsIn n a b} (distance a b) := by
    rw [distance_eq_cost]
    exact isLeast_cost a b
  have attained (a b : List Char) : EditsIn (distance a b) a b := (least a b).1
  refine ⟨least a b, ?_, ?_, ?_, ?_, ?_⟩
  · refine (least a b).unique ?_
    rw [setOf_editsIn_comm]
    exact least b a
  · constructor
    · intro zero
      exact EditsIn.zero_iff.1 (zero ▸ attained a b)
    · rintro rfl
      exact Nat.le_zero.1 ((least a a).2 (.refl a))
  · intro c
    exact (least a c).2 ((attained a b).trans (attained b c))
  · have shrinks := (attained a b).length_le
    have grows := (attained a b).symm.length_le
    omega
  · rw [distance_eq_cost]
    exact cost_le_max a b

end ModelCompiler.Naming
