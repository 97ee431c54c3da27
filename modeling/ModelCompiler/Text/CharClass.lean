/-! # Classes of characters given by ranges of code points -/

namespace ModelCompiler.Text

/-- A class of characters: the characters whose code point lies in one of the closed ranges. -/
structure CharClass where
  ranges : List (Nat × Nat)
deriving DecidableEq, Repr

namespace CharClass

def contains (k : CharClass) (c : Char) : Bool :=
  k.ranges.any fun r => r.1 ≤ c.toNat && c.toNat ≤ r.2

theorem contains_iff (k : CharClass) (c : Char) :
    k.contains c = true ↔ ∃ r ∈ k.ranges, r.1 ≤ c.toNat ∧ c.toNat ≤ r.2 := by
  simp [contains, List.any_eq_true]

/-- The characters of either class. -/
def union (k l : CharClass) : CharClass := ⟨k.ranges ++ l.ranges⟩

@[simp] theorem contains_union (k l : CharClass) (c : Char) :
    (k.union l).contains c = (k.contains c || l.contains c) := by
  simp [contains, union, List.any_append]

end CharClass

end ModelCompiler.Text
