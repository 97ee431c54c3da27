import Mathlib.Logic.Function.Basic
import ModelCompiler.Files.Tree

/-!
# The files of a tree

What an action on a tree does to the texts of its files.  Making directories leaves every file as
it is, and writing a text changes one file alone, the one that is then found at the path
(`saved_write`).  The draft that is left beside a path never takes the place of the file at that
path (`locate_sidecar_ne`).
-/

namespace ModelCompiler

namespace FileTree

/-- The text of the file at a place. -/
def file? (t : FileTree) (place : List String) : Option String :=
  match t.node? place with
  | some (.file text) => some text
  | _ => none

/-- `t'` has the files of `t`, except that the one at a path holds a text. -/
def Saved (t : FileTree) (path text : String) (t' : FileTree) : Prop :=
  ∃ place, t'.locate path = .ok place ∧ t'.file? = Function.update t.file? place (some text)

variable {t t' : FileTree}

theorem file?_put_of_ne {place other : List String} (h : other ≠ place) (n : FileNode) :
    (t.put place n).file? other = t.file? other := by
  have same : (t.put place n).node? other = t.node? other := by
    rw [node?_put, if_neg h]
    split
    · rename_i root
      rw [root]
      rfl
    · rfl
  rw [file?, same, file?]

/-- A saved text is what the path then reads as. -/
theorem Saved.read_eq {path text : String} (h : Saved t path text t') :
    t'.read path = .ok text := by
  obtain ⟨place, found, files⟩ := h
  have here : t'.file? place = some text := by rw [files, Function.update_self]
  rw [read, found]
  unfold file? at here
  split at here
  case h_1 hn =>
    cases here
    simp only [hn]
  case h_2 => cases here

/-! ## Directories -/

theorem file?_put_directory {place : List String} (h : t.node? place = none) :
    (t.put place .directory).file? = t.file? := by
  funext other
  by_cases hp : other = place
  · subst hp
    have hne : other ≠ [] := by
      rintro rfl
      cases h
    rw [file?, node?_put, if_neg hne, if_pos rfl, file?, h]
  · exact file?_put_of_ne hp _

theorem file?_extend {names passed place : List String}
    (h : t.extend passed place names = .ok t') : t'.file? = t.file? := by
  induction names generalizing t passed place with
  | nil =>
    cases h
    rfl
  | cons name names ih =>
    simp only [extend] at h
    split at h
    case h_1 => exact ih h
    case h_2 => cases h
    case h_3 missing => exact (ih h).trans (file?_put_directory missing)

theorem file?_makeDirectory {path : String} (h : t.makeDirectory path = .ok t') :
    t'.file? = t.file? :=
  file?_extend h

/-! ## Texts -/

theorem ne_nil_of_not_directory {place : List String} (h : t.node? place ≠ some .directory) :
    place ≠ [] := by
  rintro rfl
  exact h rfl

theorem file?_put_file {place : List String} (h : t.node? place ≠ some .directory) (text : String) :
    (t.put place (.file text)).file? = Function.update t.file? place (some text) := by
  funext other
  by_cases hp : other = place
  · subst hp
    rw [Function.update_self, file?, node?_put, if_neg (ne_nil_of_not_directory h), if_pos rfl]
  · rw [Function.update_of_ne hp, file?_put_of_ne hp]

/-- A walk goes through directories, so what is put anywhere else does not stop it. -/
theorem walk_put {place start names : List String} {n : FileNode} {last : List String}
    (h : t.node? place ≠ some .directory) (walked : t.walk start names = .ok last) :
    (t.put place n).walk start names = .ok last := by
  induction names generalizing start with
  | nil => exact walked
  | cons name names ih =>
    simp only [walk] at walked ⊢
    split at walked
    case h_1 => cases walked
    case h_2 => cases walked
    case h_3 directory =>
      have elsewhere : start ≠ place := by
        rintro rfl
        exact h directory
      have kept : (t.put place n).node? start = some .directory := by
        rw [node?_put, if_neg elsewhere, directory, ite_self]
      rw [kept]
      exact ih walked

theorem saved_write {path text : String} (h : t.write path text = .ok t') :
    Saved t path text t' := by
  unfold write at h
  split at h
  case h_1 => cases h
  case h_2 place found =>
    split at h
    case h_1 => cases h
    case h_2 free =>
      cases h
      exact ⟨place, walk_put free found, file?_put_file free text⟩

/-! ## The place of the draft -/

theorem walk_concat {start names : List String} {name : String} {last : List String}
    (h : t.walk start (names ++ [name]) = .ok last) :
    ∃ base, t.walk start names = .ok base ∧ last = Path.stepInside base name := by
  induction names generalizing start with
  | nil =>
    simp only [List.nil_append, walk] at h
    split at h
    case h_3 =>
      cases h
      exact ⟨start, rfl, rfl⟩
    all_goals cases h
  | cons first names ih =>
    simp only [List.cons_append, walk] at h ⊢
    split at h
    case h_3 => exact ih h
    all_goals cases h

end FileTree

namespace Text

/-- What has no separator in it lengthens the last piece. -/
theorem splitBy_append {p : Char → Bool} (cs : List Char) :
    ∃ ws w, ∀ ending : List Char, ending.any p = false →
      splitBy p (cs ++ ending) = ws ++ [w ++ ending] := by
  induction cs with
  | nil =>
    refine ⟨[], [], fun ending plain => ?_⟩
    induction ending with
    | nil => rfl
    | cons c ending ih =>
      rw [List.any_cons, Bool.or_eq_false_iff] at plain
      obtain ⟨hc, plain⟩ := plain
      simp only [List.nil_append] at ih ⊢
      rw [splitBy, hc, ih plain]
      rfl
  | cons c cs ih =>
    obtain ⟨ws, w, split⟩ := ih
    by_cases hc : p c = true
    · refine ⟨[] :: ws, w, fun ending plain => ?_⟩
      rw [List.cons_append, splitBy, if_pos hc, split ending plain]
      rfl
    · -- the character joins the first piece, which is the last one if there is no other
      cases ws with
      | nil =>
        refine ⟨[], c :: w, fun ending plain => ?_⟩
        rw [List.cons_append, splitBy, if_neg hc, split ending plain]
        rfl
      | cons v ws =>
        refine ⟨(c :: v) :: ws, w, fun ending plain => ?_⟩
        rw [List.cons_append, splitBy, if_neg hc, split ending plain]
        rfl

theorem dropEnding_append (ending cs : List Char) :
    ∃ rest, (rest = [] ∨ rest = ending) ∧ cs = dropEnding ending cs ++ rest := by
  unfold dropEnding
  split
  · rename_i h
    obtain ⟨front, rfl⟩ := List.isSuffixOf_iff_suffix.1 h
    refine ⟨ending, Or.inr rfl, ?_⟩
    rw [List.length_append, Nat.add_sub_cancel, List.take_left]
  · exact ⟨[], Or.inl rfl, (List.append_nil cs).symm⟩

end Text

namespace Path

theorem stepInside_ne {base : List String} {n m : String} (plain : m ≠ "" ∧ m ≠ "." ∧ m ≠ "..")
    (h : n ≠ m) : stepInside base n ≠ stepInside base m := by
  obtain ⟨nonempty, noDot, noDots⟩ := plain
  have step : stepInside base m = m :: base := by simp [stepInside, nonempty, noDot, noDots]
  rw [step, stepInside]
  split
  · exact (List.cons_ne_self m base).symm
  · split
    · intro same
      have := congrArg List.length same
      rw [List.length_tail, List.length_cons] at this
      omega
    · intro same
      exact h (List.cons.inj same).1

/-- A path and the path of its draft differ in their last names alone, and the one of the draft is
longer. -/
theorem names_sidecar (path : String) :
    ∃ front last draft, names path = front ++ [last] ∧ names (sidecar path) = front ++ [draft] ∧
      last.toList.length + 12 ≤ draft.toList.length ∧ 15 ≤ draft.toList.length := by
  obtain ⟨rest, hrest, whole⟩ := Text.dropEnding_append ".go".toList path.toList
  obtain ⟨ws, w, split⟩ :=
    Text.splitBy_append (p := (· == '/')) (Text.dropEnding ".go".toList path.toList)
  have plain : rest.any (· == '/') = false := by
    rcases hrest with rfl | rfl <;> decide
  have short : rest.length ≤ 3 := by
    rcases hrest with rfl | rfl <;> decide
  have long : ".unformatted.go".toList.length = 15 := by decide
  refine ⟨ws.map String.ofList, String.ofList (w ++ rest),
    String.ofList (w ++ ".unformatted.go".toList), ?_, ?_, ?_, ?_⟩
  · rw [names, whole, split rest plain, List.map_append]
    rfl
  · rw [names, sidecar, String.toList_ofList, split _ (by decide), List.map_append]
    rfl
  · rw [String.toList_ofList, String.toList_ofList, List.length_append, List.length_append, long]
    omega
  · rw [String.toList_ofList, List.length_append, long]
    omega

theorem sidecar_ne (path : String) : sidecar path ≠ path := by
  intro same
  obtain ⟨front, last, draft, hpath, hsidecar, longer, -⟩ := names_sidecar path
  rw [same, hpath] at hsidecar
  have : last = draft := List.append_inj_right' hsidecar rfl |> List.head_eq_of_cons_eq
  rw [this] at longer
  omega

end Path

namespace FileTree

/-- A file and the draft beside it are not in one place. -/
theorem locate_sidecar_ne {t : FileTree} {path : String} {place draft : List String}
    (h : t.locate path = .ok place) (hd : t.locate (Path.sidecar path) = .ok draft) :
    place ≠ draft := by
  obtain ⟨front, last, name, hpath, hsidecar, longer, long⟩ := Path.names_sidecar path
  rw [locate, hpath] at h
  rw [locate, hsidecar] at hd
  obtain ⟨base, walked, rfl⟩ := walk_concat h
  obtain ⟨base', walked', rfl⟩ := walk_concat hd
  obtain rfl : base = base' := Except.ok.inj (walked.symm.trans walked')
  have short : ∀ step ∈ ["", ".", ".."], step.toList.length ≤ 2 := by decide
  have proper : ∀ step ∈ ["", ".", ".."], name ≠ step := by
    rintro step hs rfl
    have := short name hs
    omega
  refine Path.stepInside_ne ⟨proper _ (by decide), proper _ (by decide), proper _ (by decide)⟩ ?_
  rintro rfl
  omega

end FileTree

end ModelCompiler
