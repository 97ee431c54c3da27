import Mathlib
import ModelCompiler.Yaml.Value

/-!
# What holds of the values of mappings

A mapping is read into a value pair by pair, and it may take in the pairs of other mappings, which
may take in more.  What is kept by each pair that is added holds in the end, whatever a document
takes in and wherever its references lead.
-/

set_option mvcgen.warning false

namespace ModelCompiler.Yaml

open Std.Do

variable {α β : Type}

/-- A triple is about the value that is read, if any is. -/
theorem triple_iff {P : α → Prop} {x : Values α} :
    ⦃⌜True⌝⦄ x ⦃⇓? a => ⌜P a⌝⦄ ↔ ∀ d p a q, (x.run d).run p = .ok (a, q) → P a := by
  constructor
  · intro h d p a q e
    have holds := h d p trivial
    simp only [wp, StateT.run, ReaderT.run, PredTrans.apply_pushArg, SPred.apply_pure_cons,
      PredTrans.apply_Functor_map] at holds e
    rw [e] at holds
    exact holds
  · intro h d p _
    simp only [wp, StateT.run, ReaderT.run, PredTrans.apply_pushArg, SPred.apply_pure_cons,
      PredTrans.apply_Functor_map]
    cases e : x d p with
    | error e => trivial
    | ok a => exact h d p a.1 a.2 e

theorem triple_true (x : Values α) : ⦃⌜True⌝⦄ x ⦃⇓? _ => ⌜True⌝⦄ :=
  triple_iff.2 fun _ _ _ _ _ => trivial

@[spec]
theorem mismatch_spec : ⦃⌜True⌝⦄ (mismatch : Values α) ⦃⇓? _ => ⌜False⌝⦄ :=
  triple_iff.2 fun _ _ _ _ e => nomatch e

/-- A reference leads to a node that is read like any other. -/
theorem atNode_spec {P : α → Prop} (n : Node) (read : Node → Values α)
    (sound : ∀ n, ⦃⌜True⌝⦄ read n ⦃⇓? a => ⌜P a⌝⦄) :
    ⦃⌜True⌝⦄ atNode n read ⦃⇓? a => ⌜P a⌝⦄ := by
  have visited := triple_true visit
  mvcgen [atNode, sound, visited]
  exact fun _ _ => False.elim

theorem nullAt_spec (tag : Option String) (style : ScalarStyle) (text : String) :
    ⦃⌜True⌝⦄ (nullAt tag style text : Values (Option α)) ⦃⇓? a => ⌜a = none⌝⦄ := by
  have read : ⦃⌜True⌝⦄ scalarText tag style text ⦃⇓? _ => ⌜True⌝⦄ := fun _ => by
    cases scalarText tag style text <;> trivial
  mvcgen [nullAt, read]
  exact fun _ _ => False.elim

/-- What holds of every value that is read holds of the value of a document. -/
theorem of_value {P : α → Prop} {read : Node → Values (Option α)}
    (sound : ∀ n, ⦃⌜True⌝⦄ read n ⦃⇓? o => ⌜∀ a ∈ o, P a⌝⦄) {d : Document} {o : Option α}
    (h : d.value read = .ok o) : ∀ a ∈ o, P a := by
  unfold Document.value at h
  split at h
  · cases h
    exact fun a ha => nomatch ha
  · rename_i n _
    cases run : ((read n).run d).run { nodes := 1 } with
    | error e =>
      rw [run] at h
      cases h
    | ok p =>
      rw [run] at h
      cases h
      exact triple_iff.1 (sound n) d _ _ _ run

namespace PairReader

variable {r : PairReader β} {P : β → Prop}

/-- What a reader keeps with each pair that it adds. -/
def Keeps (r : PairReader β) (P : β → Prop) : Prop :=
  ∀ merged b name n, P b → ⦃⌜True⌝⦄ r.add merged b name n ⦃⇓? c => ⌜P c⌝⦄

theorem shields_spec (s : PairState β) (pairs : List (Node × Node)) (h : P s.value) :
    ⦃⌜True⌝⦄ shields s pairs ⦃⇓? t => ⌜P t.value⌝⦄ := by
  have labels := triple_true (pairs.mapM fun p => labelAt p.1)
  mvcgen [shields, labels]

namespace Keeps

theorem addPairs (keeps : r.Keeps P) (merged : Bool) (seen : List String) (s : PairState β)
    (pairs : List (Node × Node)) (h : P s.value) :
    ⦃⌜True⌝⦄ r.addPairs merged seen s pairs ⦃⇓? t => ⌜P t.value⌝⦄ := by
  induction pairs generalizing seen s with
  | nil => mvcgen [PairReader.addPairs]
  | cons p pairs ih =>
    obtain ⟨k, v⟩ := p
    have text := triple_true (textAt k)
    have added := fun name => keeps merged s.value name v h
    -- a pair that does not count leaves the value as it is
    mvcgen [PairReader.addPairs, text, added, ih]
    all_goals first | exact fun _ _ => h | exact fun _ _ => id

/-- The induction is on the steps of taking in, of which reading a mapping and taking in a list of
mappings spend one each. -/
theorem readPairs_and_takeAll (keeps : r.Keeps P) (fuel : Nat) :
    (∀ merged s pairs, P s.value →
      ⦃⌜True⌝⦄ r.readPairs merged fuel s pairs ⦃⇓? t => ⌜P t.value⌝⦄) ∧
    ∀ s ns, P s.value → ⦃⌜True⌝⦄ r.takeAll fuel s ns ⦃⇓? t => ⌜P t.value⌝⦄ := by
  induction fuel with
  | zero =>
    constructor
    · intro merged s pairs h
      mvcgen [PairReader.readPairs]
      exact fun _ _ => False.elim
    · intro s ns h
      cases ns with
      | nil => mvcgen [PairReader.takeAll]
      | cons n ns =>
        mvcgen [PairReader.takeAll]
        exact fun _ _ => False.elim
  | succ fuel ih =>
    obtain ⟨readPairs, takeAll⟩ := ih
    constructor
    · intro merged s pairs h
      have added := keeps.addPairs merged [] s pairs h
      have shielded := fun s : PairState β => shields_spec (P := P) s pairs
      mvcgen [PairReader.readPairs, added, shielded, takeAll]
    · intro s ns h
      cases ns with
      | nil => mvcgen [PairReader.takeAll]
      | cons n ns =>
        have kind := triple_true (isMappingAt n)
        have paired := fun pairs => readPairs true s pairs h
        have taken := atNode_spec (P := fun t : PairState β => P t.value) n
        mvcgen [PairReader.takeAll, kind, paired, taken, takeAll]
        · exact fun _ _ => False.elim
        · exact fun _ _ => id

/-- What holds of the empty value and is kept holds of the value of every mapping. -/
theorem readAt (keeps : r.Keeps P) (empty : β) (h : P empty) (n : Node) :
    ⦃⌜True⌝⦄ r.readAt empty n ⦃⇓? o => ⌜∀ b ∈ o, P b⌝⦄ := by
  have paired := fun fuel pairs =>
    (keeps.readPairs_and_takeAll fuel).1 false { value := empty } pairs h
  have null := nullAt_spec (α := β)
  refine atNode_spec n _ fun n => ?_
  mvcgen [paired, null]
  · rename_i kept
    simpa using kept
  · rintro _ _ rfl b hb
    cases hb
  · exact fun _ _ => False.elim

end Keeps

end PairReader

end ModelCompiler.Yaml
