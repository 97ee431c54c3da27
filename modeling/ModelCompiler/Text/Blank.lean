import ModelCompiler.Text.CharClass

/-! # Blanks, and the words between them -/

namespace ModelCompiler.Text

/-- The code points with the Unicode property `White_Space`. -/
def blanks : CharClass := ⟨
  [(0x9, 0xD), (0x20, 0x20), (0x85, 0x85), (0xA0, 0xA0), (0x1680, 0x1680), (0x2000, 0x200A),
   (0x2028, 0x2029), (0x202F, 0x202F), (0x205F, 0x205F), (0x3000, 0x3000)]⟩

def isBlank (c : Char) : Bool := blanks.contains c

/-- The longest runs of characters that are not blank. -/
def words : List Char → List (List Char)
  | [] => []
  | c :: cs =>
    if isBlank c then words cs
    else match cs with
      | [] => [[c]]
      | d :: _ =>
        if isBlank d then [c] :: words cs
        else match words cs with
          | w :: ws => (c :: w) :: ws
          | [] => [[c]]

/-- The text without the blanks at its two ends. -/
def trim (cs : List Char) : List Char :=
  ((cs.dropWhile isBlank).reverse.dropWhile isBlank).reverse

/-- The text without the blanks at its end. -/
def trimEnd (cs : List Char) : List Char :=
  (cs.reverse.dropWhile isBlank).reverse

/-- The words of a text run together. -/
def squeeze (cs : List Char) : List Char := (words cs).flatten

/-- The words of a text on one line, with single spaces between them. -/
def oneLine (s : String) : String :=
  String.ofList ([' '].intercalate (words s.toList))

def trimmed (s : String) : String := String.ofList (trim s.toList)

def squeezed (s : String) : String := String.ofList (squeeze s.toList)

@[simp] theorem toList_squeezed (s : String) : (squeezed s).toList = squeeze s.toList := by
  simp [squeezed]

@[simp] theorem toList_trimmed (s : String) : (trimmed s).toList = trim s.toList := by
  simp [trimmed]

/-- Between its words a text has nothing but blanks. -/
theorem squeeze_eq_filter (cs : List Char) : squeeze cs = cs.filter fun c => !isBlank c := by
  rw [squeeze]
  -- one case for each branch of `words`
  fun_induction words cs with
  | case1 => rfl
  | case2 c cs blank ih => rw [ih, List.filter_cons_of_neg (by simp [blank])]
  | case3 c dark => simp [dark]
  | case4 c dark d cs blank ih =>
    rw [List.flatten_cons, ih, List.filter_cons_of_pos (a := c) (by simp [dark])]
    rfl
  | case5 c dark d cs _ first rest same ih =>
    rw [same] at ih ⊢
    rw [List.filter_cons_of_pos (a := c) (by simp [dark]), ← ih]
    rfl
  | case6 c dark d cs _ same ih =>
    rw [same] at ih ⊢
    rw [List.filter_cons_of_pos (a := c) (by simp [dark]), ← ih]
    rfl

theorem not_isBlank_of_mem_squeeze {cs : List Char} {c : Char} (h : c ∈ squeeze cs) :
    isBlank c = false := by
  rw [squeeze_eq_filter] at h
  simpa using (List.mem_filter.1 h).2

end ModelCompiler.Text
