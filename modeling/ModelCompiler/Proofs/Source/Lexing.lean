import ModelCompiler.Code.Tokens
import ModelCompiler.Proofs.Source.Identifiers
import ModelCompiler.Proofs.Text.Quoting

/-!
# The lexemes of a text

The tokens that a scanner finds, without their places and without comments.  What stands in a text
has the same lexemes wherever it stands, if what follows cannot be a part of its last token; names,
quoted texts and calls made of these are taken in whole, one after the other.
-/

namespace ModelCompiler

namespace Code

/-- A token without its place. -/
structure Lexeme where
  kind : Kind
  chars : List Char
deriving DecidableEq, Repr

namespace Lexeme

def name (x : String) : Lexeme := ⟨.name, x.toList⟩

def sign (mark : String) : Lexeme := ⟨.sign, mark.toList⟩

/-- A text between double quotes. -/
def quoted (s : String) : Lexeme := ⟨.text, (Text.quote s).toList⟩

/-- What ends a statement, written or implied. -/
def semicolon : Lexeme := sign ";"

/-- Whether the end of a line after a lexeme ends a statement. -/
def closes (l : Lexeme) : Bool :=
  Token.closes { kind := l.kind, text := l.chars, start := 0, stop := 0 }

end Lexeme

/-- The lexemes of a text, if it is well formed; `closing` says whether the end of the line ends a
statement. A comment over several lines counts as the end of a line, and any other as a blank. -/
def lexemes? (closing : Bool) (cs : List Char) : Option (List Lexeme) :=
  match cs with
  | [] => some (if closing then [.semicolon] else [])
  | c :: rest =>
    if Scan.isGap closing c then lexemes? closing rest
    else if c = '\n' then (lexemes? false rest).map (.semicolon :: ·)
    else match Scan.comment? (c :: rest) with
      | some none => none
      | some (some (text, after)) =>
        if after.length ≤ rest.length then
          if closing ∧ '\n' ∈ text then (lexemes? false after).map (.semicolon :: ·)
          else lexemes? closing after
        else none
      | none => match Scan.token? (c :: rest) with
        | none => none
        | some (kind, text, after) =>
          if after.length ≤ rest.length then
            let l : Lexeme := ⟨kind, text⟩
            (lexemes? l.closes after).map (l :: ·)
          else none
termination_by cs.length

/-! ## One lexeme -/

section

variable {closing : Bool} {c : Char} {rest after : List Char}

theorem lexemes?_gap (h : Scan.isGap closing c) :
    lexemes? closing (c :: rest) = lexemes? closing rest := by
  rw [lexemes?, if_pos h]

theorem lexemes?_gaps {gap : List Char} (h : ∀ c ∈ gap, Scan.isGap closing c) :
    lexemes? closing (gap ++ rest) = lexemes? closing rest := by
  induction gap with
  | nil => rfl
  | cons c gap ih =>
    rw [List.cons_append, lexemes?_gap (h c List.mem_cons_self)]
    exact ih fun d hd => h d (List.mem_cons_of_mem c hd)

theorem lexemes?_end : lexemes? true ('\n' :: rest) =
    (lexemes? false rest).map (Lexeme.semicolon :: ·) := by
  rw [lexemes?, if_neg (by decide), if_pos rfl]

/-- A comment up to the end of a line is no lexeme. -/
theorem lexemes?_comment {text : List Char} (h : '\n' ∉ text) :
    lexemes? closing ('/' :: '/' :: text ++ '\n' :: rest) = lexemes? closing ('\n' :: rest) := by
  have inside : ∀ c ∈ text, (c != '\n') = true := by
    rintro c hc
    exact bne_iff_ne.2 fun same => h (same ▸ hc)
  have comment : Scan.comment? ('/' :: '/' :: (text ++ '\n' :: rest)) =
      some (some ('/' :: '/' :: text, '\n' :: rest)) := by
    simp [Scan.comment?, List.takeWhile_append_of_pos inside,
      List.dropWhile_append_of_pos inside]
  have oneLine : '\n' ∉ '/' :: '/' :: text := by simpa using h
  rw [List.cons_append, List.cons_append, lexemes?, if_neg (by cases closing <;> decide),
    if_neg (by decide), comment]
  have shorter : ('\n' :: rest).length ≤ ('/' :: (text ++ '\n' :: rest)).length := by
    simp only [List.length_cons, List.length_append]
    omega
  simp only [oneLine, and_false, if_false, if_pos shorter]

/-- A character that begins neither a gap nor a comment. -/
def isPlain (c : Char) : Bool := !(['/', ' ', '\t', '\r', '\n'].contains c)

theorem lexemes?_token (plain : isPlain c) {kind : Kind} {text : List Char}
    (token : Scan.token? (c :: rest) = some (kind, text, after))
    (shorter : after.length ≤ rest.length) :
    lexemes? closing (c :: rest) =
      (lexemes? (Lexeme.closes ⟨kind, text⟩) after).map (⟨kind, text⟩ :: ·) := by
  simp only [isPlain, List.contains_eq_mem, List.mem_cons, List.not_mem_nil, or_false,
    Bool.not_eq_true', decide_eq_false_iff_not, not_or] at plain
  obtain ⟨notSlash, notSpace, notTab, notReturn, notEnd⟩ := plain
  have noGap : ¬Scan.isGap closing c := by
    simp [Scan.isGap, notSpace, notTab, notReturn, notEnd]
  have noComment : Scan.comment? (c :: rest) = none := by
    simp [Scan.comment?, notSlash]
  rw [lexemes?, if_neg noGap, if_neg notEnd]
  simp only [noComment, token, if_pos shorter]

end

/-! ## Names and quoted texts -/

theorem ascii_forall {p : Char → Prop} (h : ∀ n < 0x80, p (Char.ofNat n)) {c : Char}
    (hc : c.toNat < 0x80) : p c := by
  rw [← Char.ofNat_toNat c]
  exact h c.toNat hc

/-- A character before all but the first ranges of a class is judged by the first ones. -/
theorem contains_take {k : Text.CharClass} {m n : Nat} (h : (k.ranges.drop m).all (n ≤ ·.1))
    {c : Char} (hc : c.toNat < n) :
    k.contains c = ({ ranges := k.ranges.take m } : Text.CharClass).contains c := by
  have none : ({ ranges := k.ranges.drop m } : Text.CharClass).contains c = false := by
    rw [Bool.eq_false_iff, Ne, Text.CharClass.contains_iff]
    rintro ⟨r, hr, low, -⟩
    have high := of_decide_eq_true (List.all_eq_true.1 h r hr)
    omega
  have parts := Text.CharClass.contains_union { ranges := k.ranges.take m }
    { ranges := k.ranges.drop m } c
  rw [Text.CharClass.union, List.take_append_drop, none, Bool.or_false] at parts
  exact parts

theorem isLetter_of_ascii {c : Char} (h : c.toNat < 0x80) : Text.isLetter c = c.isAlpha := by
  have first := contains_take (k := Text.letters) (m := 2) (by decide +kernel) h
  rw [Text.isLetter, first]
  exact ascii_forall (p := fun c => ({ ranges := Text.letters.ranges.take 2 } :
    Text.CharClass).contains c = c.isAlpha) (by decide +kernel) h

theorem isDigit_of_ascii {c : Char} (h : c.toNat < 0x80) : Text.isDigit c = c.isDigit := by
  have first := contains_take (k := Text.digits) (m := 1) (by decide +kernel) h
  rw [Text.isDigit, first]
  exact ascii_forall (p := fun c => ({ ranges := Text.digits.ranges.take 1 } :
    Text.CharClass).contains c = c.isDigit) (by decide +kernel) h

/-- A scanner tells letters and digits as the rules for identifiers do. -/
theorem isNameStart_eq (c : Char) : isNameStart c = Source.isIdentStart c := by
  rw [isNameStart, Source.isIdentStart]
  split
  · rename_i ascii
    rw [isLetter_of_ascii ascii]
  · rfl

theorem isNameChar_eq (c : Char) : isNameChar c = Source.isIdentChar c := by
  rw [isNameChar, Source.isIdentChar, isNameStart_eq, Source.isIdentStart]
  split
  · rename_i ascii
    rw [isDigit_of_ascii ascii]
  · rfl

/-- What begins a name begins nothing else. -/
theorem of_isIdentStart {c : Char} (h : Source.isIdentStart c) :
    isPlain c ∧ isDecimal c = false ∧ c ≠ '.' ∧ c ≠ '"' ∧ c ≠ '\x27' ∧ c ≠ rawQuote := by
  have named {d : Char} (hd : Source.isIdentStart d = false) : c ≠ d := by
    rintro rfl
    rw [hd] at h
    cases h
  refine ⟨?_, ?_, named (by decide +kernel), named (by decide +kernel), named (by decide +kernel),
    named (by decide +kernel)⟩
  · have plain : ['/', ' ', '\t', '\r', '\n'].all (fun d => !Source.isIdentStart d) = true := by
      decide +kernel
    have absent : c ∉ ['/', ' ', '\t', '\r', '\n'] := by
      intro member
      exact named (by simpa using List.all_eq_true.1 plain c member) rfl
    simpa [isPlain] using absent
  · by_contra digit
    have ascii : c.toNat < 0x80 := by
      simp only [isDecimal, Bool.and_eq_true, decide_eq_true_eq, Bool.not_eq_false] at digit
      exact Nat.lt_of_le_of_lt digit.2 (by decide)
    rw [← isNameStart_eq, isNameStart, if_pos ascii] at h
    exact digit (ascii_forall (p := fun c => c == '_' || c.isAlpha → isDecimal c = false)
      (by decide +kernel) ascii h)

/-- Nothing follows that could be a part of a name. -/
def Ends (rest : List Char) : Prop := ∀ c ∈ rest.head?, isNameChar c = false

theorem takeWhile_of_ends {rest : List Char} (h : Ends rest) : rest.takeWhile isNameChar = [] := by
  cases rest with
  | nil => rfl
  | cons c rest => rw [List.takeWhile_cons, if_neg (by simp [h c rfl])]

theorem dropWhile_of_ends {rest : List Char} (h : Ends rest) :
    rest.dropWhile isNameChar = rest := by
  cases rest with
  | nil => rfl
  | cons c rest => rw [List.dropWhile_cons, if_neg (by simp [h c rfl])]

theorem token?_name {x : String} (h : Source.isIdentifier x) {rest : List Char} (ends : Ends rest) :
    Scan.token? (x.toList ++ rest) = some (.name, x.toList, rest) := by
  rw [Source.isIdentifier, Bool.and_eq_true] at h
  obtain ⟨named, noWord⟩ := h
  cases chars : x.toList with
  | nil =>
    rw [chars] at named
    cases named
  | cons c cs =>
    have shape := named
    rw [chars, Source.identShape, Bool.and_eq_true] at shape
    obtain ⟨-, noDigit, notDot, notQuote, notMark, notRaw⟩ := of_isIdentStart shape.1
    have noLiteral : literal? (c :: cs ++ rest) = none := by
      simp [literal?, noDigit, notDot, notQuote, notMark, notRaw]
    have start : (c :: cs ++ rest).head?.any isNameStart := by
      simpa [isNameStart_eq] using shape.1
    have inside : ∀ d ∈ c :: cs, isNameChar d := by
      intro d hd
      rw [isNameChar_eq]
      exact Source.isIdentChar_of_identShape (chars ▸ named) d hd
    have unknown : words.any (·.toList == c :: cs) = false := by
      rw [Bool.not_eq_true', List.contains_eq_mem, decide_eq_false_iff_not] at noWord
      rw [List.any_eq_false]
      intro w hw same
      rw [String.toList_inj.1 ((eq_of_beq same).trans chars.symm)] at hw
      exact noWord hw
    rw [Scan.token?, noLiteral]
    simp only [Scan.plainToken?, if_pos start, List.takeWhile_append_of_pos inside,
      List.dropWhile_append_of_pos inside, takeWhile_of_ends ends, dropWhile_of_ends ends,
      List.append_nil, unknown]
    rfl

/-- In every place the characters have these lexemes, after which the end of a line ends a
statement. -/
def Lexes (cs : List Char) (ls : List Lexeme) : Prop :=
  ∀ closing rest, Ends rest → lexemes? closing (cs ++ rest) = (lexemes? true rest).map (ls ++ ·)

/-- Characters that are a token whatever follows have that lexeme. -/
theorem lexes_of_token {kind : Kind} {c : Char} {cs : List Char} (plain : isPlain c)
    (closes : Lexeme.closes ⟨kind, c :: cs⟩)
    (token : ∀ rest, Ends rest → Scan.token? (c :: cs ++ rest) = some (kind, c :: cs, rest)) :
    Lexes (c :: cs) [⟨kind, c :: cs⟩] := by
  intro closing rest ends
  have read := token rest ends
  rw [List.cons_append] at read
  rw [List.cons_append, lexemes?_token plain read (by simp), closes]
  rfl

theorem lexes_name {x : String} (h : Source.isIdentifier x) : Lexes x.toList [.name x] := by
  have token (rest : List Char) (ends : Ends rest) := token?_name h ends
  have shape := (Bool.and_eq_true_iff.1 h).1
  rw [Lexeme.name]
  cases chars : x.toList with
  | nil =>
    rw [chars] at shape
    cases shape
  | cons c cs =>
    rw [chars] at token shape
    exact lexes_of_token (of_isIdentStart (Bool.and_eq_true_iff.1 shape).1).1 rfl token

theorem lexes_quoted (s : String) : Lexes (Text.quote s).toList [.quoted s] := by
  have token (rest : List Char) (_ : Ends rest) :
      Scan.token? ((Text.quote s).toList ++ rest) = some (.text, (Text.quote s).toList, rest) := by
    rw [Scan.token?, literal?_quote]
  rw [Lexeme.quoted]
  rw [Text.toList_quote, List.cons_append] at token ⊢
  exact lexes_of_token rfl rfl token

/-! ## Calls -/

/-- The lexemes of a call after what its function belongs to. -/
def callLexemes (function : String) (arguments : List (List Lexeme)) : List Lexeme :=
  .sign "." :: .name function :: .sign "(" ::
    [Lexeme.sign ","].intercalate arguments ++ [.sign ")"]

section

variable {closing : Bool} {rest : List Char}

theorem lexemes?_open : lexemes? closing ('(' :: rest) =
    (lexemes? false rest).map (.sign "(" :: ·) := lexemes?_token rfl rfl (Nat.le_refl _)

theorem lexemes?_comma : lexemes? closing (',' :: rest) =
    (lexemes? false rest).map (.sign "," :: ·) := lexemes?_token rfl rfl (Nat.le_refl _)

theorem lexemes?_close : lexemes? closing (')' :: rest) =
    (lexemes? true rest).map (.sign ")" :: ·) := lexemes?_token rfl rfl (Nat.le_refl _)

/-- A dot before a name is neither a part of a number nor of three dots. -/
theorem lexemes?_dot {c : Char} (h : Source.isIdentStart c) : lexemes? closing ('.' :: c :: rest) =
    (lexemes? false (c :: rest)).map (.sign "." :: ·) := by
  obtain ⟨-, noDigit, notDot, -⟩ := of_isIdentStart h
  have noNumber : ¬(isDecimal '.' ∨ ('.' = '.' ∧ (c :: rest).head?.any isDecimal)) := by
    have noDot : isDecimal '.' = false := rfl
    simp [noDigit, noDot]
  have noLiteral : literal? ('.' :: c :: rest) = none := by
    rw [literal?, if_neg noNumber]
    rfl
  have single : signs.find? (·.toList.isPrefixOf ('.' :: c :: rest)) = some "." := by
    simp [signs, notDot.symm]
  refine lexemes?_token rfl ?_ (Nat.le_refl _)
  rw [Scan.token?, noLiteral]
  simp only [Scan.plainToken?, single]
  rfl

/-- A comma and blanks after it. -/
def Separates (sep : List Char) : Prop := ∃ gap, sep = ',' :: gap ∧ ∀ c ∈ gap, Scan.isGap false c

theorem ends_cons {c : Char} (h : isNameChar c = false) : Ends (c :: rest) := by
  rintro d ⟨⟩
  exact h

theorem lexemes?_arguments {sep : List Char} (separates : Separates sep)
    {arguments : List (List Char)} {lss : List (List Lexeme)}
    (h : List.Forall₂ Lexes arguments lss) :
    lexemes? false (sep.intercalate arguments ++ ')' :: rest) =
      (lexemes? true rest).map ([Lexeme.sign ","].intercalate lss ++ .sign ")" :: ·) := by
  obtain ⟨gap, rfl, blank⟩ := separates
  have closes : Ends (')' :: rest) := ends_cons (by decide +kernel)
  induction h with
  | nil =>
    rw [List.intercalate_nil, List.nil_append, lexemes?_close]
    rfl
  | @cons argument ls arguments lss ha h ih =>
    cases h with
    | nil =>
      rw [List.intercalate_singleton, List.intercalate_singleton, ha _ _ closes, lexemes?_close,
        Option.map_map]
      rfl
    | cons hb h =>
      have more (tail : List Char) : Ends (',' :: tail) := ends_cons (by decide +kernel)
      rw [List.intercalate_cons_cons, List.intercalate_cons_cons, List.append_assoc,
        List.append_assoc, List.cons_append, ha _ _ (more _), lexemes?_comma, lexemes?_gaps blank,
        ih, Option.map_map, Option.map_map]
      congr 1
      funext read
      simp

end

/-- A call of a function, whatever the function belongs to. -/
theorem lexes_member {function : String} (h : Source.isIdentifier function) {sep : List Char}
    (separates : Separates sep) {arguments : List (List Char)} {lss : List (List Lexeme)}
    (ha : List.Forall₂ Lexes arguments lss) :
    Lexes ('.' :: function.toList ++ '(' :: sep.intercalate arguments ++ [')'])
      (callLexemes function lss) := by
  intro closing rest _
  have shape := (Bool.and_eq_true_iff.1 h).1
  have opens : Ends ('(' :: (sep.intercalate arguments ++ ')' :: rest)) :=
    ends_cons (by decide +kernel)
  have named := lexes_name h false _ opens
  have chars : '.' :: function.toList ++ '(' :: sep.intercalate arguments ++ [')'] ++ rest =
      '.' :: (function.toList ++ '(' :: (sep.intercalate arguments ++ ')' :: rest)) := by simp
  have dot : lexemes? closing
        ('.' :: (function.toList ++ '(' :: (sep.intercalate arguments ++ ')' :: rest))) =
      (lexemes? false (function.toList ++ '(' :: (sep.intercalate arguments ++ ')' :: rest))).map
        (.sign "." :: ·) := by
    cases same : function.toList with
    | nil =>
      rw [same] at shape
      cases shape
    | cons c cs =>
      rw [same] at shape
      exact lexemes?_dot (Bool.and_eq_true_iff.1 shape).1
  rw [chars, dot, named, lexemes?_open, lexemes?_arguments separates ha, Option.map_map,
    Option.map_map, Option.map_map]
  congr 1
  funext read
  simp [callLexemes]

theorem lexes_call {cs ds : List Char} {ls ls' : List Lexeme} (h : Lexes cs ls)
    (h' : Lexes ('.' :: ds) ls') : Lexes (cs ++ '.' :: ds) (ls ++ ls') := by
  intro closing rest ends
  have dot : Ends ('.' :: ds ++ rest) := ends_cons (by decide +kernel)
  rw [List.append_assoc, h _ _ dot, h' _ _ ends, Option.map_map]
  congr 1
  funext read
  simp

end Code

end ModelCompiler
