import Mathlib.Data.List.Nodup
import ModelCompiler.Proofs.Source.Counting
import ModelCompiler.Source.Assembly

/-!
# Dependency orders

Numbers are taken one at a time, each after all that it depends on.  Main statements: a dependency
order is a permutation of the numbers in which each comes after its dependencies, and an order of
classes is a permutation of them in which each comes after its supertypes.
-/

namespace ModelCompiler.Source

/-- A dependency order holds every number once, each after its dependencies. -/
theorem dependencyOrder_spec {n : Nat} {deps : Nat → List Int} {order : List Nat}
    (h : dependencyOrder n deps = .ok order) :
    order.Perm (List.range n) ∧
      ∀ a i b, order = a ++ i :: b → ∀ d ∈ deps i, d.toNat ∈ a := by
  have sound := sound_take n (.start deps (List.range n))
  rw [dependencyOrder_eq] at h
  split at h
  · cases h
  · split at h
    · rename_i empty
      cases h
      have perm := sound.perm
      rw [empty, List.append_nil] at perm
      refine ⟨(List.reverse_perm _).trans perm, fun a i b hs d hd => ?_⟩
      have supported := sound.supported
      rw [← List.reverse_reverse (take deps n [] (List.range n)).1, hs] at supported
      simp only [List.reverse_append, List.reverse_cons, List.append_assoc,
        List.singleton_append] at supported
      exact List.mem_reverse.1 (supported.mem_of_append hd)
    · cases h

/-! ## Classes -/

/-- What has a key of its own has one number. -/
theorem index_eq_of_key {α β : Type} {key : α → β} {l : List α} (nodup : (l.map key).Nodup)
    {i j : Nat} {a b : α} (ha : l[i]? = some a) (hb : l[j]? = some b) (same : key a = key b) :
    i = j := by
  have lt : i < (l.map key).length := by
    rw [List.length_map]
    exact (List.getElem?_eq_some_iff.1 ha).1
  refine (List.getElem?_inj lt nodup).1 ?_
  rw [List.getElem?_map, List.getElem?_map, ha, hb]
  exact congrArg some same

theorem dependencyOrder_of_classOrder {classes : List ClassDef} {order : List Nat}
    (h : classOrder classes = .ok order) :
    dependencyOrder classes.length (superIndices classes) = .ok order := by
  unfold classOrder at h
  split at h
  · rename_i order' ho
    cases h
    exact ho
  · cases h
  · cases h

theorem filterMap_getElem?_range {α : Type} (l : List α) :
    (List.range l.length).filterMap (fun i => l[i]?) = l := by
  have all : (List.range l.length).map (fun i => l[i]?) = l.map some := by
    apply List.ext_getElem?
    intro i
    by_cases hi : i < l.length
    · simp [hi]
    · simp [Nat.le_of_not_lt hi]
  calc (List.range l.length).filterMap (fun i => l[i]?)
    _ = ((List.range l.length).map fun i => l[i]?).filterMap id := by
      rw [List.filterMap_map]
      rfl
    _ = l := by
      rw [all]
      simp

/-- Classes that have been ordered are the classes that there were. -/
theorem perm_of_classOrder {classes : List ClassDef} {order : List Nat}
    (h : classOrder classes = .ok order) :
    (order.filterMap fun i => classes[i]?).Perm classes := by
  have perm := (dependencyOrder_spec (dependencyOrder_of_classOrder h)).1
  have classesPerm := perm.filterMap fun i => classes[i]?
  rwa [filterMap_getElem?_range] at classesPerm

theorem exists_lastIndex? {classes : List ClassDef} {e : ClassDef} (he : e ∈ classes) :
    ∃ j d, lastIndex? classes e.id = some j ∧ classes[j]? = some d ∧ d.id = e.id := by
  obtain ⟨k, hk, rfl⟩ := List.mem_iff_getElem.1 he
  cases hj : lastIndex? classes classes[k].id with
  | none =>
    have absent := List.find?_eq_none.1 hj k (by simpa using hk)
    simp [hk] at absent
  | some j =>
    have found := List.find?_some hj
    obtain ⟨d, hd, hid⟩ := (Option.any_eq_true _ _).1 found
    exact ⟨j, d, rfl, hd, beq_iff_eq.1 hid⟩

/-- A class comes after every other class of the list that it specializes. -/
theorem mem_of_classOrder {classes : List ClassDef} {order : List Nat}
    (h : classOrder classes = .ok order) (ids : (classes.map (·.id)).Nodup)
    {a b : List ClassDef} {c : ClassDef}
    (hs : order.filterMap (fun i => classes[i]?) = a ++ c :: b)
    {g : ClassRef} (hg : g ∈ c.generals) {e : ClassDef} (he : e ∈ classes) (hid : e.id = g.id)
    (hne : e.id ≠ c.id) : e ∈ a := by
  obtain ⟨x, y, hxy, hx, hy⟩ := List.filterMap_eq_append_iff.1 hs
  obtain ⟨z, i, w, rfl, hz, hi, hw⟩ := List.filterMap_eq_cons_iff.1 hy
  obtain ⟨j, d, hj, hd, hde⟩ := exists_lastIndex? he
  have hed : d = e := List.inj_on_of_nodup_map ids (List.mem_of_getElem? hd) he hde
  subst hed
  have hji : j ≠ i := by
    rintro rfl
    rw [hi] at hd
    cases hd
    exact hne rfl
  have dep : (j : Int) ∈ superIndices classes i := by
    simp only [superIndices, hi, List.mem_map, List.mem_filter, List.mem_filterMap]
    exact ⟨j, ⟨⟨g, hg, hid ▸ hj⟩, by simpa using hji⟩, rfl⟩
  have before := (dependencyOrder_spec (dependencyOrder_of_classOrder h)).2 (x ++ z) i w
    (by simp [hxy]) j dep
  rw [← hx]
  rcases List.mem_append.1 before with hjx | hjz
  · exact List.mem_filterMap.2 ⟨j, hjx, hd⟩
  · rw [Int.toNat_natCast] at hjz
    rw [hz j hjz] at hd
    cases hd

end ModelCompiler.Source
