import ModelCompiler.Proofs.Element.Fields
import ModelCompiler.Proofs.Naming.Scores

/-!
# A ranking depends on the set of names alone

Sorting is free to leave candidates of which neither precedes the other in any order, and the names
come in the order of a table that has none.  Main statement: there is only one ranking of a set of
names nevertheless, strictly ordered by score and then by name.

Candidates are ordered by a key, which is the standing of the score, turned round, and then the
name.  Among candidates whose scores are numbers, one precedes another if its key is less.  Two
rankings of one set of names have the same keys, in ascending order, hence the same list of keys,
and the names are part of the keys.
-/

namespace ModelCompiler.Naming

/-- A name with its likeness to the wanted one. -/
def candidate (want n : String) : Candidate := ⟨n, nameSimilarity want n⟩

@[simp] theorem candidate_name (want n : String) : (candidate want n).name = n := rfl

@[simp] theorem candidate_score (want n : String) :
    (candidate want n).score = nameSimilarity want n := by rw [candidate]

/-- A list of the names, each once, with no candidate right after one that it precedes: all that is
known of what sorting gives. -/
structure IsRanking (want : String) (names : List String) (l : List Candidate) : Prop where
  perm : l.Perm (names.eraseDups.map (candidate want))
  sorted : l.IsChain fun a b => b.precedes a = false

/-- The scores of the names are numbers. -/
def AreNumbers (want : String) (names : List String) : Prop :=
  ∀ n ∈ names, (nameSimilarity want n).isNaN = false

namespace Candidate

/-- The higher score comes first, and of equal scores the lesser name. -/
def key (c : Candidate) : (ℤ ×ₗ ℤ ×ₗ ℤ)ᵒᵈ ×ₗ String :=
  toLex (OrderDual.toDual (standing c.score), c.name)

variable {a b : Candidate}

theorem key_lt_iff (ha : a.score.isNaN = false) (hb : b.score.isNaN = false) :
    a.key < b.key ↔ b.score < a.score ∨ (a.score == b.score) = true ∧ a.name < b.name := by
  rw [lt_iff_standing hb ha, beq_iff_standing ha hb]
  exact Prod.Lex.toLex_lt_toLex

theorem precedes_iff (ha : a.score.isNaN = false) (hb : b.score.isNaN = false) :
    a.precedes b = true ↔ a.key < b.key := by
  rw [key_lt_iff ha hb, precedes]
  by_cases same : (a.score == b.score) = true
  · have tied : ¬ b.score < a.score := by
      rw [lt_iff_standing hb ha, (beq_iff_standing ha hb).1 same]
      exact lt_irrefl _
    simp [bne, same, tied]
  · simp [bne, same]

theorem precedes_eq_false_iff (ha : a.score.isNaN = false) (hb : b.score.isNaN = false) :
    b.precedes a = false ↔ a.key ≤ b.key := by
  rw [← not_lt, ← precedes_iff hb ha, Bool.not_eq_true]

end Candidate

variable {want : String} {names others : List String} {l l' : List Candidate}

namespace IsRanking

theorem perm_names (h : IsRanking want names l) : (l.map (·.name)).Perm names.eraseDups := by
  simpa [Function.comp_def] using h.perm.map (·.name)

theorem nodup_names (h : IsRanking want names l) : (l.map (·.name)).Nodup :=
  h.perm_names.nodup_iff.2 (nodup_eraseDups names)

theorem mem_names_iff (h : IsRanking want names l) {n : String} :
    n ∈ l.map (·.name) ↔ n ∈ names :=
  h.perm_names.mem_iff.trans List.mem_eraseDups

theorem eq_candidate (h : IsRanking want names l) {c : Candidate} (hc : c ∈ l) :
    c = candidate want c.name := by
  obtain ⟨n, -, rfl⟩ := List.mem_map.1 (h.perm.mem_iff.1 hc)
  rfl

theorem eq_map_names (h : IsRanking want names l) : l = (l.map (·.name)).map (candidate want) := by
  rw [List.map_map]
  exact (List.map_id l).symm.trans (List.map_congr_left fun c hc => h.eq_candidate hc)

theorem isNaN_score (h : IsRanking want names l) (numbers : AreNumbers want names)
    {c : Candidate} (hc : c ∈ l) : c.score.isNaN = false := by
  rw [h.eq_candidate hc, candidate_score]
  exact numbers c.name (h.mem_names_iff.1 (List.mem_map_of_mem hc))

theorem sortedLE_keys (h : IsRanking want names l) (numbers : AreNumbers want names) :
    (l.map (·.key)).SortedLE := by
  have number {c : Candidate} : c ∈ l → c.score.isNaN = false := h.isNaN_score numbers
  have chain : l.IsChain fun a b => a.key ≤ b.key := h.sorted.imp_of_mem_imp fun a b ha hb late =>
    (Candidate.precedes_eq_false_iff (number ha) (number hb)).1 late
  exact ((List.isChain_map Candidate.key).2 chain).sortedLE

/-- Every two rankings of one set of names are the same. -/
theorem eq_of_same (h : IsRanking want names l) (h' : IsRanking want others l')
    (same : ∀ n, n ∈ names ↔ n ∈ others) (numbers : AreNumbers want names) : l = l' := by
  have numbers' : AreNumbers want others := fun n hn => numbers n ((same n).2 hn)
  have members : names.eraseDups.Perm others.eraseDups := by
    rw [List.perm_ext_iff_of_nodup (nodup_eraseDups names) (nodup_eraseDups others)]
    simpa only [List.mem_eraseDups] using same
  have keys : l.map (·.key) = l'.map (·.key) :=
    List.Perm.eq_of_sortedLE (h.sortedLE_keys numbers) (h'.sortedLE_keys numbers')
      ((h.perm.trans ((members.map _).trans h'.perm.symm)).map _)
  have keyed : l.map (·.name) = l'.map (·.name) := by
    simpa [Candidate.key, Function.comp_def] using congrArg (List.map fun k => (ofLex k).2) keys
  rw [h.eq_map_names, h'.eq_map_names, keyed]

/-- The candidates of a ranking are strictly ordered. -/
theorem pairwise (h : IsRanking want names l) (numbers : AreNumbers want names) :
    l.Pairwise fun a b =>
      b.score < a.score ∨ (a.score == b.score) = true ∧ a.name < b.name := by
  have number {c : Candidate} : c ∈ l → c.score.isNaN = false := h.isNaN_score numbers
  have ordered : l.Pairwise fun a b => a.key ≤ b.key :=
    List.pairwise_map.1 (h.sortedLE_keys numbers).pairwise
  have distinct : l.Pairwise fun a b => a.name ≠ b.name := List.pairwise_map.1 h.nodup_names
  refine (ordered.and distinct).imp_of_mem fun {a b} ha hb ⟨le, ne⟩ => ?_
  refine (Candidate.key_lt_iff (number ha) (number hb)).1 (lt_of_le_of_ne le fun keys => ne ?_)
  exact congrArg (fun k => (ofLex k).2) keys

end IsRanking

/-- The table of the names, sorted by merging, is a ranking. -/
theorem isRanking_rank (numbers : AreNumbers want names) :
    IsRanking want names (rank want names) := by
  have perm : (rank want names).Perm (names.eraseDups.map (candidate want)) :=
    List.mergeSort_perm _ _
  have number {c : Candidate} (hc : c ∈ names.eraseDups.map (candidate want)) :
      c.score.isNaN = false := by
    obtain ⟨n, hn, rfl⟩ := List.mem_map.1 hc
    rw [candidate_score]
    exact numbers n (List.mem_eraseDups.1 hn)
  have keys : (rank want names).map (·.key) =
      ((names.eraseDups.map (candidate want)).map (·.key)).mergeSort fun a b => decide (a ≤ b) := by
    refine List.map_mergeSort fun a ha b hb => ?_
    rw [Bool.eq_iff_iff, Bool.not_eq_true', decide_eq_true_iff]
    exact Candidate.precedes_eq_false_iff (number ha) (number hb)
  have ordered : ((rank want names).map (·.key)).SortedLE := by
    rw [keys]
    exact List.sortedLE_mergeSort
  refine ⟨perm, ((List.isChain_map _).1 ordered.isChain).imp_of_mem_imp fun a b ha hb le => ?_⟩
  exact (Candidate.precedes_eq_false_iff (number (perm.mem_iff.1 ha))
    (number (perm.mem_iff.1 hb))).2 le

/-- A ranking depends on nothing but the set of names, as does the name that is suggested.  It has
each name once with its likeness to the wanted one, and it is strictly ordered by descending score
and then by ascending name.  Scores are taken to compare, as those of names of usual length do. -/
theorem ranking_of_same_names (same : ∀ n, n ∈ names ↔ n ∈ others)
    (total : ∀ m ∈ names, ∀ n ∈ names,
      Comparable (nameSimilarity want m) (nameSimilarity want n)) :
    (∀ l, IsRanking want names l ∨ IsRanking want others l ↔ l = rank want names) ∧
    rank want others = rank want names ∧
    ((rank want names).map (·.name)).Nodup ∧
    (∀ n, n ∈ (rank want names).map (·.name) ↔ n ∈ names) ∧
    (∀ c ∈ rank want names, c.score = nameSimilarity want c.name) ∧
    (rank want names).Pairwise (fun a b =>
      b.score < a.score ∨ (a.score == b.score) = true ∧ a.name < b.name) ∧
    suggest? want others = suggest? want names := by
  have numbers : AreNumbers want names := fun n hn => (total n hn n hn).isNaN_eq_false
  have numbers' : AreNumbers want others := fun n hn => numbers n ((same n).2 hn)
  have ranked := isRanking_rank numbers
  have unique : ∀ l, IsRanking want names l ∨ IsRanking want others l → l = rank want names := by
    rintro l (h | h)
    · exact h.eq_of_same ranked (fun _ => Iff.rfl) numbers
    · exact h.eq_of_same ranked (fun n => (same n).symm) numbers'
  have agree : rank want others = rank want names := unique _ (.inr (isRanking_rank numbers'))
  refine ⟨fun l => ⟨unique l, ?_⟩, agree, ranked.nodup_names, fun n => ranked.mem_names_iff,
    fun c hc => ?_, ranked.pairwise numbers, ?_⟩
  · rintro rfl
    exact .inl ranked
  · rw [ranked.eq_candidate hc, candidate_score, candidate_name]
  · rw [suggest?, suggest?, agree]

/-- A list that repeats a name and one in another order have one ranking. -/
theorem ranking_of_same_names_wheels :
    (∀ n, n ∈ ["wheel", "hub", "wheel"] ↔ n ∈ ["hub", "wheel"]) ∧
    rank "wheels" ["wheel", "hub", "wheel"] =
      [candidate "wheels" "wheel", candidate "wheels" "hub"] ∧
    rank "wheels" ["hub", "wheel"] = rank "wheels" ["wheel", "hub", "wheel"] ∧
    suggest? "wheels" ["hub", "wheel"] = some "wheel" := by
  have same (n : String) : n ∈ ["wheel", "hub", "wheel"] ↔ n ∈ ["hub", "wheel"] := by
    simp only [List.mem_cons, List.not_mem_nil, or_false]
    tauto
  have wanted : "wheels".toList.length < 2 ^ 53 := by decide
  have short : ∀ n ∈ ["wheel", "hub", "wheel"], n.toList.length < 2 ^ 53 := by decide
  obtain ⟨unique, agree, -, -, -, -, suggested⟩ := ranking_of_same_names same fun m hm n hn =>
    comparable_nameSimilarity wanted (short m hm) (short n hn)
  have ranking : IsRanking "wheels" ["wheel", "hub", "wheel"]
      [candidate "wheels" "wheel", candidate "wheels" "hub"] := by
    refine ⟨.refl _, List.isChain_pair.2 ?_⟩
    decide +kernel
  have ranked := (unique _).1 (.inl ranking)
  refine ⟨same, ranked.symm, agree, ?_⟩
  rw [suggested, suggest?, ← ranked]
  decide +kernel

end ModelCompiler.Naming
