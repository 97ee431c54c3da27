import Mathlib.Data.List.Nodup
import Mathlib.Data.List.Perm.Subperm
import Mathlib.Logic.Relation
import ModelCompiler.Model.Stereotype

/-!
# Walks down a hierarchy

A walk goes down from a class, enters each class once and stops at the first one that it is already
inside of.  `Walk.Visits` says what a walk does without any bound on its depth, and `visits_below`
that `Walk.below` does just this if its bound is no less than the number of classes: no path is
longer, as its classes are distinct.

A class is finished when all that lies below it has been visited and no cycle is there.  What is
visited is finished or on the path, and this is kept at every step.  So a walk that is not stopped
visits all that it reaches, and it is stopped if and only if it reaches a cycle.
-/

namespace ModelCompiler

namespace Walk

open Relation

section Hierarchy

variable (next : String → List ClassRef)

/-- The second class lies directly below the first. -/
def Under (a b : String) : Prop := ∃ c ∈ next a, c.id = b

/-- No class that is reached from this one lies below itself. -/
def CycleFree (a : String) : Prop :=
  ∀ b, ReflTransGen (Under next) a b → ¬TransGen (Under next) b b

/-- What a walk does with the classes that are left below `parent`, which it reached along `path`:
from one state of the walk to another. -/
inductive Visits : List String → ClassRef → List ClassRef → Walk → Walk → Prop
  | done {path parent w} : Visits path parent [] w w
  | stopped {path parent left w} : w.cycle.isSome → Visits path parent left w w
  | back {path parent child left w} : w.cycle = none → child.id ∈ parent.id :: path →
      Visits path parent (child :: left) w { w with cycle := some ⟨child.name, parent.name⟩ }
  | skip {path parent child left w w'} : w.cycle = none → child.id ∉ parent.id :: path →
      child.id ∈ w.seen.map (·.id) → Visits path parent left w w' →
      Visits path parent (child :: left) w w'
  | enter {path parent child left w u w'} : w.cycle = none → child.id ∉ parent.id :: path →
      child.id ∉ w.seen.map (·.id) →
      Visits (parent.id :: path) child (next child.id) { w with seen := w.seen ++ [child] } u →
      Visits path parent left u w' → Visits path parent (child :: left) w w'

variable {next}

/-- What lies below a class without cycles below its subtypes has none either: a cycle through the
class would go through one of them. -/
theorem CycleFree.of_under {a : String} (h : ∀ b, Under next a b → CycleFree next b) :
    CycleFree next a := by
  intro b reached cycle
  rcases ReflTransGen.cases_head reached with rfl | ⟨c, hc, rest⟩
  · obtain ⟨c, hc, back⟩ := TransGen.head'_iff.1 cycle
    exact h c hc c .refl (TransGen.tail' back hc)
  · exact h c hc b rest cycle

end Hierarchy

variable {next : String → List ClassRef} {path : List String} {parent : ClassRef}
  {left : List ClassRef} {w w' : Walk}

/-! ## The bound on the depth -/

/-- One step of the walk below `parent`. -/
def descend (next : String → List ClassRef) (fuel : Nat) (path : List String) (parent : ClassRef)
    (w : Walk) (child : ClassRef) : Walk :=
  if w.cycle.isSome then w
  else if (parent.id :: path).contains child.id then
    { w with cycle := some ⟨child.name, parent.name⟩ }
  else if w.seen.any (·.id == child.id) then w
  else below next fuel (parent.id :: path) child { w with seen := w.seen ++ [child] }

theorem below_succ (fuel : Nat) : below next (fuel + 1) path parent w =
    (next parent.id).foldl (descend next fuel path parent) w := rfl

/-- A walk that has been stopped does nothing more. -/
theorem Visits.eq_of_stopped (h : Visits next path parent left w w') (stopped : w.cycle.isSome) :
    w' = w := by
  cases h with
  | done => rfl
  | stopped => rfl
  | back running => simp [running] at stopped
  | skip running => simp [running] at stopped
  | enter running => simp [running] at stopped

/-- One more step before the rest of the walk. -/
theorem Visits.of_descend {fuel : Nat} {child : ClassRef}
    (inside : child.id ∉ parent.id :: path → ∀ u, Visits next (parent.id :: path) child
      (next child.id) u (Walk.below next fuel (parent.id :: path) child u))
    (rest : Visits next path parent left (descend next fuel path parent w child) w') :
    Visits next path parent (child :: left) w w' := by
  unfold descend at rest
  split at rest
  · rename_i stopped
    rw [rest.eq_of_stopped stopped]
    exact .stopped stopped
  · rename_i running
    have running : w.cycle = none := by simpa using running
    split at rest
    · rename_i onPath
      rw [rest.eq_of_stopped rfl]
      exact .back running (by simpa using onPath)
    · rename_i off
      have off : child.id ∉ parent.id :: path := by simpa using off
      split at rest
      · rename_i seen
        exact .skip running off (by simpa using seen) rest
      · rename_i fresh
        exact .enter running off (by simpa using fresh) (inside off _) rest

/-- The bound does not show if it is no less than the number of classes that may get on a path. -/
theorem visits_below (ids : List String) (closed : ∀ a, ∀ c ∈ next a, c.id ∈ ids) {fuel : Nat}
    (nodup : (parent.id :: path).Nodup) (known : ∀ a ∈ parent.id :: path, a ∈ ids)
    (enough : ids.length ≤ path.length + fuel) :
    Visits next path parent (next parent.id) w (below next fuel path parent w) := by
  induction fuel generalizing path parent w with
  | zero =>
    -- the path would be longer than there are classes
    have short := (nodup.subperm known).length_le
    rw [List.length_cons] at short
    omega
  | succ fuel ih =>
    have inside {child : ClassRef} (hc : child ∈ next parent.id)
        (off : child.id ∉ parent.id :: path) (u : Walk) :
        Visits next (parent.id :: path) child (next child.id) u
          (below next fuel (parent.id :: path) child u) := by
      refine ih (List.nodup_cons.2 ⟨off, nodup⟩) ?_ ?_
      · exact List.forall_mem_cons.2 ⟨closed parent.id child hc, known⟩
      · rw [List.length_cons]
        omega
    have steps (left : List ClassRef) (sub : ∀ c ∈ left, c ∈ next parent.id) (u : Walk) :
        Visits next path parent left u (left.foldl (descend next fuel path parent) u) := by
      induction left generalizing u with
      | nil => exact .done
      | cons child left rest =>
        obtain ⟨hc, sub⟩ := List.forall_mem_cons.1 sub
        exact .of_descend (inside hc) (rest sub _)
    rw [below_succ]
    exact steps (next parent.id) (fun c hc => hc) w

/-! ## What a walk has visited -/

namespace Visits

/-- A cycle that has been found stays. -/
theorem cycle_eq_none (h : Visits next path parent left w w') (running : w'.cycle = none) :
    w.cycle = none := by
  induction h with
  | done => exact running
  | stopped => exact running
  | back => cases running
  | skip none => exact none
  | enter none => exact none

theorem seen_prefix (h : Visits next path parent left w w') : w.seen <+: w'.seen := by
  induction h with
  | done => exact List.prefix_refl _
  | stopped => exact List.prefix_refl _
  | back => exact List.prefix_refl _
  | skip _ _ _ _ ih => exact ih
  | enter _ _ _ _ _ inside rest =>
    exact ((List.prefix_append _ _).trans inside).trans rest

/-- No class is visited twice. -/
theorem ids_nodup (h : Visits next path parent left w w') (hw : (w.seen.map (·.id)).Nodup) :
    (w'.seen.map (·.id)).Nodup := by
  induction h with
  | done => exact hw
  | stopped => exact hw
  | back => exact hw
  | skip _ _ _ _ ih => exact ih hw
  | enter _ _ fresh _ _ inside rest =>
    refine rest (inside ?_)
    rw [List.map_append, List.map_singleton, ← List.concat_eq_append]
    exact List.Nodup.concat fresh hw

/-- What has been visited was so before, or it lies below. -/
theorem mem_seen (h : Visits next path parent left w w')
    (sub : ∀ c ∈ left, c ∈ next parent.id) {c : ClassRef} (hc : c ∈ w'.seen) :
    c ∈ w.seen ∨ TransGen (Under next) parent.id c.id ∧ ∃ a, c ∈ next a := by
  induction h with
  | done => exact .inl hc
  | stopped => exact .inl hc
  | back => exact .inl hc
  | skip _ _ _ _ ih => exact ih (fun c hc => sub c (List.mem_cons_of_mem _ hc)) hc
  | @enter path parent child left w u w' _ _ _ _ _ inside rest =>
    have first : child ∈ next parent.id := sub child List.mem_cons_self
    have down : Under next parent.id child.id := ⟨child, first, rfl⟩
    rcases rest (fun c hc => sub c (List.mem_cons_of_mem _ hc)) hc with early | late
    · rcases inside (fun c hc => hc) early with before | ⟨below, source⟩
      · rcases List.mem_append.1 before with before | same
        · exact .inl before
        · rw [List.mem_singleton.1 same]
          exact .inr ⟨.single down, parent.id, first⟩
      · exact .inr ⟨.head down below, source⟩
    · exact .inr late

/-- A walk is stopped by a cycle only: what it is inside of leads to where it is. -/
theorem exists_cycle (h : Visits next path parent left w w')
    (sub : ∀ c ∈ left, c ∈ next parent.id)
    (chain : ∀ a ∈ path, ReflTransGen (Under next) a parent.id)
    (running : w.cycle = none) (found : w'.cycle ≠ none) : ¬CycleFree next parent.id := by
  induction h with
  | done => exact absurd running found
  | stopped => exact absurd running found
  | @back path parent child left w _ onPath =>
    have down : Under next parent.id child.id := ⟨child, sub child List.mem_cons_self, rfl⟩
    have up : ReflTransGen (Under next) child.id parent.id := by
      rcases List.mem_cons.1 onPath with same | above
      · rw [same]
      · exact chain _ above
    intro free
    exact free parent.id .refl (TransGen.head' down up)
  | skip _ _ _ _ ih =>
    exact ih (fun c hc => sub c (List.mem_cons_of_mem _ hc)) chain running found
  | @enter path parent child left w u w' _ _ _ _ _ inside rest =>
    have down : Under next parent.id child.id := ⟨child, sub child List.mem_cons_self, rfl⟩
    by_cases through : u.cycle = none
    · exact rest (fun c hc => sub c (List.mem_cons_of_mem _ hc)) chain through found
    · have longer : ∀ a ∈ parent.id :: path, ReflTransGen (Under next) a child.id := by
        intro a ha
        rcases List.mem_cons.1 ha with rfl | ha
        · exact .single down
        · exact (chain a ha).tail down
      intro free
      exact inside (fun c hc => hc) longer running through fun b hb =>
        free b (ReflTransGen.head down hb)

end Visits

/-- All that lies directly below a class has been visited, and no cycle is reached from it. -/
structure Finished (next : String → List ClassRef) (w : Walk) (a : String) : Prop where
  visited : ∀ b, Under next a b → b ∈ w.seen.map (·.id)
  free : CycleFree next a

theorem Finished.mono {a : String} (h : Finished next w a) (grows : w.seen <+: w'.seen) :
    Finished next w' a where
  visited b hb := (grows.map (·.id)).subset (h.visited b hb)
  free := h.free

/-- If a walk is not stopped, what it has visited is finished when it is left. -/
theorem Visits.finished (h : Visits next path parent left w w') (running : w'.cycle = none)
    (hw : ∀ a ∈ w.seen.map (·.id), a ∈ parent.id :: path ∨ Finished next w a) :
    (∀ a ∈ w'.seen.map (·.id), a ∈ parent.id :: path ∨ Finished next w' a) ∧
      ∀ c ∈ left, c.id ∈ w'.seen.map (·.id) ∧ CycleFree next c.id := by
  induction h with
  | done => exact ⟨hw, by simp⟩
  | stopped stopped =>
    rw [running] at stopped
    cases stopped
  | back => cases running
  | @skip path parent child left w w' _ off seen visits ih =>
    obtain ⟨finished, visited⟩ := ih running hw
    refine ⟨finished, List.forall_mem_cons.2 ⟨⟨?_, ?_⟩, visited⟩⟩
    · exact (visits.seen_prefix.map (·.id)).subset seen
    · exact ((hw child.id seen).resolve_left off).free
  | @enter path parent child left w u w' _ _ _ inside rest ihInside ihRest =>
    have entered : ∀ a ∈ (w.seen ++ [child]).map (·.id), a ∈ child.id :: parent.id :: path ∨
        Finished next { w with seen := w.seen ++ [child] } a := by
      intro a ha
      rw [List.map_append, List.map_singleton, List.mem_append, List.mem_singleton] at ha
      rcases ha with before | rfl
      · rcases hw a before with onPath | finished
        · exact .inl (List.mem_cons_of_mem _ onPath)
        · exact .inr (finished.mono (List.prefix_append _ _))
      · exact .inl List.mem_cons_self
    obtain ⟨leaving, below⟩ := ihInside (rest.cycle_eq_none running) entered
    have done : Finished next u child.id := by
      refine ⟨?_, CycleFree.of_under ?_⟩
      · rintro b ⟨c, hc, rfl⟩
        exact (below c hc).1
      · rintro b ⟨c, hc, rfl⟩
        exact (below c hc).2
    have after : ∀ a ∈ u.seen.map (·.id), a ∈ parent.id :: path ∨ Finished next u a := by
      intro a ha
      rcases leaving a ha with onPath | finished
      · rcases List.mem_cons.1 onPath with rfl | onPath
        · exact .inr done
        · exact .inl onPath
      · exact .inr finished
    obtain ⟨finished, visited⟩ := ihRest running after
    refine ⟨finished, List.forall_mem_cons.2 ⟨⟨?_, done.free⟩, visited⟩⟩
    have entered : child ∈ u.seen := inside.seen_prefix.subset (by simp)
    exact List.mem_map_of_mem (rest.seen_prefix.subset entered)

/-! ## Walks from a class -/

section Root

variable {root : ClassRef}

/-- A walk from a class visits this class first. -/
theorem Visits.exists_seen_eq_cons
    (h : Visits next [] root (next root.id) { seen := [root] } w) :
    ∃ rest, w.seen = root :: rest := by
  obtain ⟨rest, seen⟩ := h.seen_prefix
  exact ⟨rest, seen.symm⟩

/-- If a walk from a class is not stopped, all that it has visited is finished. -/
theorem Visits.all_finished (h : Visits next [] root (next root.id) { seen := [root] } w)
    (running : w.cycle = none) {a : String} (ha : a ∈ w.seen.map (·.id)) : Finished next w a := by
  obtain ⟨finished, visited⟩ := h.finished running (by simp)
  rcases finished a ha with isRoot | finished
  · rw [List.mem_singleton.1 isRoot]
    refine ⟨?_, CycleFree.of_under ?_⟩
    · rintro b ⟨c, hc, rfl⟩
      exact (visited c hc).1
    · rintro b ⟨c, hc, rfl⟩
      exact (visited c hc).2
  · exact finished

/-- A walk from a class is stopped if and only if a cycle is reached from the class. -/
theorem Visits.cycle_eq_none_iff (h : Visits next [] root (next root.id) { seen := [root] } w) :
    w.cycle = none ↔ CycleFree next root.id := by
  constructor
  · intro running
    obtain ⟨rest, seen⟩ := h.exists_seen_eq_cons
    exact (h.all_finished running (by simp [seen])).free
  · intro free
    by_contra found
    exact h.exists_cycle (fun c hc => hc) (by simp) rfl found free

/-- A walk from a class that is not stopped visits what is reached from the class, and nothing
else. -/
theorem Visits.mem_ids_seen_iff (h : Visits next [] root (next root.id) { seen := [root] } w)
    (running : w.cycle = none) {a : String} :
    a ∈ w.seen.map (·.id) ↔ ReflTransGen (Under next) root.id a := by
  constructor
  · intro ha
    obtain ⟨c, hc, rfl⟩ := List.mem_map.1 ha
    rcases h.mem_seen (fun c hc => hc) hc with isRoot | ⟨below, -⟩
    · rw [List.mem_singleton.1 isRoot]
    · exact below.to_reflTransGen
  · intro reached
    induction reached with
    | refl =>
      obtain ⟨rest, seen⟩ := h.exists_seen_eq_cons
      simp [seen]
    | tail _ down ih => exact (h.all_finished running ih).visited _ down

end Root

end Walk

end ModelCompiler
