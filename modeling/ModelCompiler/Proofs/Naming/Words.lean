import Mathlib.Data.List.Basic
import ModelCompiler.Naming.Words

/-!
# What the words of an identifier keep

Main statement: the words of a text, run together, are the text without its separators.  A word is
begun with one character and grows by one, so that wherever the text is cut each character but a
separator goes into one word.  Lower case neither makes a separator nor loses one.
-/

namespace ModelCompiler.Naming

open Text

/-! ## Words -/

theorem flatten_asWord (w : List Char) : (asWord w).flatten = w := by
  cases w <;> simp [asWord]

/-- The word that has been begun goes on with what is left of the text. -/
theorem flatten_cutWords (before : Option Char) (word cs : List Char) :
    (cutWords before word cs).flatten = word ++ cs.filter fun c => !isSeparator c := by
  fun_induction cutWords before word cs with
  | case1 before word => simp [flatten_asWord]
  | case2 before word c cs sep ih => simp [flatten_asWord, ih, sep]
  | case3 before word c cs sep _ ih => simp [flatten_asWord, ih, sep]
  | case4 before word c cs sep _ ih => simp [ih, sep]

theorem flatten_camelWords (cs : List Char) :
    (camelWords cs).flatten = cs.filter fun c => !isSeparator c := by
  rw [camelWords, flatten_cutWords, List.nil_append]

/-- A word has characters, none of which is a separator. -/
def IsWord (w : List Char) : Prop := w ≠ [] ∧ ∀ c ∈ w, isSeparator c = false

theorem isWord_of_mem_asWord {word : List Char} (plain : ∀ c ∈ word, isSeparator c = false) :
    ∀ w ∈ asWord word, IsWord w := by
  cases word with
  | nil => simp [asWord]
  | cons c word =>
    intro w hw
    obtain rfl : w = c :: word := by simpa [asWord] using hw
    exact ⟨List.cons_ne_nil c word, plain⟩

/-- What has been begun without separators becomes a word, as does all that follows. -/
theorem isWord_of_mem_cutWords {before : Option Char} {word cs : List Char}
    (plain : ∀ c ∈ word, isSeparator c = false) : ∀ w ∈ cutWords before word cs, IsWord w := by
  fun_induction cutWords before word cs with
  | case1 before word => exact isWord_of_mem_asWord plain
  | case2 before word c cs _ ih =>
    intro w hw
    rcases List.mem_append.1 hw with begun | later
    · exact isWord_of_mem_asWord plain w begun
    · exact ih (by simp) w later
  | case3 before word c cs sep _ ih =>
    intro w hw
    rcases List.mem_append.1 hw with begun | later
    · exact isWord_of_mem_asWord plain w begun
    · exact ih (by simpa using sep) w later
  | case4 before word c cs sep _ ih =>
    refine ih fun d hd => ?_
    rcases List.mem_append.1 hd with begun | last
    · exact plain d begun
    · rw [List.mem_singleton.1 last]
      simpa using sep

theorem isWord_of_mem_camelWords {cs w : List Char} (h : w ∈ camelWords cs) : IsWord w :=
  isWord_of_mem_cutWords (by simp) w h

/-! ## Normal forms -/

/-- The normal form is the text in lower case without its separators. -/
theorem toList_normalForm (s : String) :
    (normalForm s).toList = (s.toList.filter fun c => !isSeparator c).map toLower := by
  rw [normalForm, String.toList_ofList, ← List.map_flatten, flatten_camelWords]

theorem length_normalForm_le (s : String) : (normalForm s).toList.length ≤ s.toList.length := by
  rw [toList_normalForm, List.length_map]
  exact List.length_filter_le _ _

theorem normalForm_eq_join (s : String) : normalForm s = String.join (identWords s) := by
  rw [← String.toList_inj, String.toList_join, identWords, normalForm, String.toList_ofList,
    List.flatMap_map]
  simp only [String.toList_ofList]
  exact List.flatMap_def.symm

/-! ## Separators and case -/

theorem toLower_of_isSeparator {c : Char} (h : isSeparator c = true) : toLower c = c := by
  simp only [isSeparator, Bool.or_eq_true, beq_iff_eq] at h
  rcases h with ((rfl | rfl) | rfl) | rfl <;> rfl

/-- The separators come before the small letters. -/
theorem toNat_lt_of_isSeparator {c : Char} (h : isSeparator c = true) : c.toNat < 0x61 := by
  simp only [isSeparator, Bool.or_eq_true, beq_iff_eq] at h
  rcases h with ((rfl | rfl) | rfl) | rfl <;> decide

theorem isSeparator_ofNat {n : Nat} (h : 0x61 ≤ n) : isSeparator (Char.ofNat n) = false := by
  by_cases valid : n.isValidChar
  · rw [Char.ofNat, dif_pos valid]
    refine Bool.eq_false_iff.2 fun sep => ?_
    have below : n < 0x61 := toNat_lt_of_isSeparator sep
    omega
  -- what is no code point becomes the null character
  · rw [Char.ofNat, dif_neg valid]
    rfl

/-- Every run of code points leads to the small letters and beyond. -/
theorem le_of_mem_lowerRuns : ∀ r ∈ lowerRuns, (0x61 : Int) ≤ r.first + r.shift := by
  decide +kernel

theorem isSeparator_toLower (c : Char) : isSeparator (toLower c) = isSeparator c := by
  cases h : isSeparator c with
  | true => rw [toLower_of_isSeparator h, h]
  | false =>
    unfold toLower
    split
    · rename_i r found
      have covered : r.covers c.toNat = true := by simpa using List.find?_some found
      have first : r.first ≤ c.toNat := by
        simp only [CaseRun.covers, Bool.and_eq_true, decide_eq_true_eq] at covered
        exact covered.1.1
      have least := le_of_mem_lowerRuns r (List.mem_of_find?_eq_some found)
      refine isSeparator_ofNat ?_
      omega
    · exact h

end ModelCompiler.Naming
