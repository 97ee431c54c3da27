import ModelCompiler.Proofs.Naming.Scores

/-!
# Spellings of one name

An identifier can be spelled with separators and capitals in many ways.  Main statement: its words
are the identifier without separators, and two identifiers have one normal form if and only if they
differ in nothing but separators and case, so that they are compared as equal texts.
-/

namespace ModelCompiler.Naming

open Text
open Float.Model (UnpackedFloat)

/-! ## Spellings -/

/-- Two texts are the same but for separators that are put into the one or the other and for
characters that have one lower-case form. -/
inductive SpelledAlike : List Char → List Char → Prop
  | nil : SpelledAlike [] []
  | letter {c d : Char} {a b : List Char} :
      toLower c = toLower d → SpelledAlike a b → SpelledAlike (c :: a) (d :: b)
  | left {c : Char} {a b : List Char} :
      isSeparator c = true → SpelledAlike a b → SpelledAlike (c :: a) b
  | right {c : Char} {a b : List Char} :
      isSeparator c = true → SpelledAlike a b → SpelledAlike a (c :: b)

/-- A text in lower case, without its separators. -/
def bare (cs : List Char) : List Char := (cs.filter fun c => !isSeparator c).map toLower

section

variable {c : Char} {cs : List Char}

theorem bare_cons_separator (sep : isSeparator c = true) : bare (c :: cs) = bare cs := by
  simp [bare, sep]

theorem bare_cons_letter (plain : isSeparator c = false) :
    bare (c :: cs) = toLower c :: bare cs := by
  simp [bare, plain]

end

namespace SpelledAlike

variable {a b : List Char}

theorem bare_eq (h : SpelledAlike a b) : bare a = bare b := by
  induction h with
  | nil => rfl
  | @letter c d a b same _ ih =>
    -- characters with one lower-case form are separators or not alike
    have both : isSeparator c = isSeparator d := by
      rw [← isSeparator_toLower c, same, isSeparator_toLower]
    cases sep : isSeparator d with
    | true => rw [bare_cons_separator (both.trans sep), bare_cons_separator sep, ih]
    | false => rw [bare_cons_letter (both.trans sep), bare_cons_letter sep, same, ih]
  | left sep _ ih => rw [bare_cons_separator sep, ih]
  | right sep _ ih => rw [bare_cons_separator sep, ih]

/-- Before the next letter of the second text there are separators alone. -/
theorem letter_of_bare_eq {c : Char} (plain : isSeparator c = false)
    (ih : ∀ b, bare a = bare b → SpelledAlike a b) (same : bare (c :: a) = bare b) :
    SpelledAlike (c :: a) b := by
  rw [bare_cons_letter plain] at same
  induction b with
  | nil => cases same
  | cons d b ihb =>
    cases sep : isSeparator d with
    | true =>
      rw [bare_cons_separator sep] at same
      exact .right sep (ihb same)
    | false =>
      rw [bare_cons_letter sep, List.cons.injEq] at same
      exact .letter same.1 (ih b same.2)

theorem of_bare_eq (same : bare a = bare b) : SpelledAlike a b := by
  induction a generalizing b with
  | nil =>
    induction b with
    | nil => exact .nil
    | cons d b ihb =>
      cases sep : isSeparator d with
      | true =>
        rw [bare_cons_separator sep] at same
        exact .right sep (ihb same)
      | false =>
        rw [bare_cons_letter sep] at same
        cases same
  | cons c a ih =>
    cases sep : isSeparator c with
    | true =>
      rw [bare_cons_separator sep] at same
      exact .left sep (ih same)
    | false => exact letter_of_bare_eq sep (fun _ => ih) same

end SpelledAlike

theorem normalForm_eq_iff (s t : String) :
    normalForm s = normalForm t ↔ SpelledAlike s.toList t.toList := by
  rw [← String.toList_inj, toList_normalForm, toList_normalForm]
  exact ⟨.of_bare_eq, fun alike => alike.bare_eq⟩

/-! ## Equal texts -/

theorem stored_zero (s : UnpackedFloat.Sign) : stored (.zero s) = .zero s := by
  cases s <;> rfl

theorem one_sub_of_zero {x : Float} {s : UnpackedFloat.Sign}
    (h : x.toModel.unpack = .zero s) : 1.0 - x = 1.0 := by
  calc 1.0 - x
    _ = .ofModel (.pack (.sub .binary64 (1.0 : Float).toModel.unpack x.toModel.unpack)) := rfl
    _ = .ofModel (.pack (.sub .binary64 (1.0 : Float).toModel.unpack (.zero s))) := by rw [h]
    _ = 1.0 := rfl

/-- A text of usual length is as like itself as can be. -/
theorem similarity_self {a : String} (h : a.toList.length < 2 ^ 53) : similarity a a = 1.0 := by
  have same : distance a.toList a.toList = 0 := if_pos rfl
  unfold similarity
  dsimp only
  rw [same, Nat.max_self]
  split
  · rfl
  · rename_i long
    obtain ⟨s, m, e, pos, finite, -⟩ := moderate_ofNat (Nat.pos_of_ne_zero long) h
    have zero : (Float.ofNat 0).toModel.unpack = .zero .positive := rfl
    refine one_sub_of_zero (s := .positive / s) ?_
    rw [unpack_div, finite, zero]
    exact stored_zero _

/-- The words of an identifier, run together, are its characters that are no separators, and each
word has some of them and no separator.  In lower case they make up the normal form.  So two
identifiers have one normal form if and only if they are spelled alike, and then they are compared
as a text with itself, to the highest score. -/
theorem words_lose_separators_only (s : String) :
    (camelWords s.toList).flatten = (s.toList.filter fun c => !isSeparator c) ∧
    (∀ w ∈ camelWords s.toList, w ≠ [] ∧ ∀ c ∈ w, isSeparator c = false) ∧
    normalForm s = String.join (identWords s) ∧
    (normalForm s).toList = (s.toList.filter fun c => !isSeparator c).map toLower ∧
    ∀ t : String, (normalForm s = normalForm t ↔ SpelledAlike s.toList t.toList) ∧
      (SpelledAlike s.toList t.toList →
        nameSimilarity s t = similarity (normalForm s) (normalForm s) ∧
        distance (normalForm s).toList (normalForm t).toList = 0 ∧
        (s.toList.length < 2 ^ 53 → nameSimilarity s t = 1.0)) := by
  refine ⟨flatten_camelWords _, fun w => isWord_of_mem_camelWords, normalForm_eq_join s,
    toList_normalForm s, fun t => ⟨normalForm_eq_iff s t, fun alike => ?_⟩⟩
  have same : normalForm s = normalForm t := (normalForm_eq_iff s t).2 alike
  have equal : nameSimilarity s t = similarity (normalForm s) (normalForm s) := by
    rw [nameSimilarity, ← same]
  refine ⟨equal, if_pos (congrArg String.toList same), fun short => ?_⟩
  rw [equal]
  exact similarity_self ((length_normalForm_le s).trans_lt short)

/-- An acronym that is run together with the next word, and the two words apart. -/
theorem words_lose_separators_only_acronym :
    camelWords "XMLParser".toList = ["XML".toList, "Parser".toList] ∧
    SpelledAlike "XMLParser".toList "xml_parser".toList ∧
    normalForm "XMLParser" = "xmlparser" ∧
    nameSimilarity "XMLParser" "xml_parser" = 1.0 := by
  have alike : SpelledAlike "XMLParser".toList "xml_parser".toList :=
    .of_bare_eq (by decide +kernel)
  obtain ⟨-, -, -, -, spelled⟩ := words_lose_separators_only "XMLParser"
  obtain ⟨-, -, score⟩ := (spelled "xml_parser").2 alike
  exact ⟨by decide +kernel, alike, by decide +kernel, score (by decide)⟩

end ModelCompiler.Naming
