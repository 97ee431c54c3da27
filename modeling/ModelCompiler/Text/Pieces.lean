/-! # Pieces of a text -/

namespace ModelCompiler.Text

/-- The pieces between the characters that `p` picks out; there is always at least one. -/
def splitBy (p : Char → Bool) : List Char → List (List Char)
  | [] => [[]]
  | c :: cs =>
    if p c then [] :: splitBy p cs
    else match splitBy p cs with
      | w :: ws => (c :: w) :: ws
      | [] => [[c]]

theorem splitBy_eq_splitOnP (p : Char → Bool) (cs : List Char) : splitBy p cs = cs.splitOnP p := by
  induction cs with
  | nil => rfl
  | cons c cs ih =>
    rw [splitBy, List.splitOnP_cons_eq_if_modifyHead, ih]
    split
    · rfl
    · obtain ⟨w, ws, same⟩ := List.exists_cons_of_ne_nil (List.splitOnP_ne_nil p cs)
      rw [same]
      rfl

/-- A piece is made of characters of the text, and none of them ends a piece. -/
theorem of_mem_splitOnP {p : Char → Bool} {cs w : List Char} (hw : w ∈ cs.splitOnP p) :
    ∀ c ∈ w, c ∈ cs ∧ p c = false := by
  induction cs generalizing w with
  | nil =>
    obtain rfl := List.mem_singleton.1 hw
    exact fun c hc => absurd hc List.not_mem_nil
  | cons d cs ih =>
    have inside : ∀ v ∈ cs.splitOnP p, ∀ c ∈ v, c ∈ d :: cs ∧ p c = false :=
      fun v hv c hc => (ih hv c hc).imp_left (List.mem_cons_of_mem d)
    rw [List.splitOnP_cons_eq_if_modifyHead] at hw
    by_cases hd : p d
    · rw [if_pos hd] at hw
      rcases List.mem_cons.1 hw with rfl | hw
      · exact fun c hc => absurd hc List.not_mem_nil
      · exact inside w hw
    · rw [if_neg hd] at hw
      -- the character joins the first piece
      obtain ⟨first, rest, same⟩ := List.exists_cons_of_ne_nil (List.splitOnP_ne_nil p cs)
      rw [same] at hw inside
      rcases List.mem_cons.1 hw with rfl | hw
      · rintro c (_ | ⟨_, hc⟩)
        · exact ⟨List.mem_cons_self, Bool.eq_false_iff.2 hd⟩
        · exact inside first List.mem_cons_self c hc
      · exact inside w (List.mem_cons_of_mem _ hw)

/-- The text before and after the first occurrence of a character. -/
def cut? (sep : Char) : List Char → Option (List Char × List Char)
  | [] => none
  | c :: cs =>
    if c = sep then some ([], cs)
    else (cut? sep cs).map fun (a, b) => (c :: a, b)

/-- The text before and after the first occurrence of a mark, which is not empty. -/
def cutAt? (mark : List Char) : List Char → Option (List Char × List Char)
  | [] => none
  | c :: cs =>
    if mark.isPrefixOf (c :: cs) then some ([], (c :: cs).drop mark.length)
    else (cutAt? mark cs).map fun (a, b) => (c :: a, b)

/-- What follows the given beginning of a text, if it has it. -/
def dropBeginning? (beginning cs : List Char) : Option (List Char) :=
  if beginning.isPrefixOf cs then some (cs.drop beginning.length) else none

/-- The text without the given ending, if it has it. -/
def dropEnding (ending cs : List Char) : List Char :=
  if ending.isSuffixOf cs then cs.take (cs.length - ending.length) else cs

def hasEnding (s ending : String) : Bool := ending.toList.isSuffixOf s.toList

/-- Texts joined with a separator between them. -/
def joinWith (sep : String) (ss : List String) : String :=
  String.ofList (sep.toList.intercalate (ss.map String.toList))

theorem toList_joinWith (sep : String) (ss : List String) :
    (joinWith sep ss).toList = sep.toList.intercalate (ss.map String.toList) := by
  rw [joinWith, String.toList_ofList]

theorem mem_intercalate {α : Type} {sep : List α} {ws : List (List α)} {a : α}
    (h : a ∈ sep.intercalate ws) : a ∈ sep ∨ ∃ w ∈ ws, a ∈ w := by
  induction ws with
  | nil => cases h
  | cons w ws ih =>
    cases ws with
    | nil =>
      rw [List.intercalate_singleton] at h
      exact .inr ⟨w, List.mem_cons_self, h⟩
    | cons v ws =>
      rw [List.intercalate_cons_cons, List.mem_append, List.mem_append] at h
      rcases h with (h | h) | h
      · exact .inr ⟨w, List.mem_cons_self, h⟩
      · exact .inl h
      · exact (ih h).imp_right fun ⟨u, hu, h⟩ => ⟨u, List.mem_cons_of_mem w hu, h⟩

end ModelCompiler.Text
