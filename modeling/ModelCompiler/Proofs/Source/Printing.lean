import ModelCompiler.Proofs.Source.Reading
import ModelCompiler.Source.Text

/-!
# Reading a file back

The text of a statement has the lexemes of its expression, wherever the statement stands.  Main
statement: the statements that declare properties and add operations are read back, in order, from
the text of the function that fills the classes.
-/

namespace ModelCompiler.Source

open Code (Lexeme Lexes lexemes? callLexemes)

/-! ## The text of expressions -/

theorem separates_comma : Code.Separates ", ".toList := ⟨[' '], rfl, by simp [Code.Scan.isGap]⟩

/-- A text that has the lexemes of an expression. -/
def Writes (text : String) (e : Expr) : Prop := Lexes text.toList e.lexemes

theorem lexemesAll_of_writes {texts : List String} {es : List Expr}
    (h : List.Forall₂ Writes texts es) :
    List.Forall₂ Lexes (texts.map String.toList) (Expr.lexemesAll es) := by
  induction h with
  | nil => exact .nil
  | cons ht _ ih => exact .cons ht ih

theorem writes_name {x : String} (h : isIdentifier x) : Writes x (.name x) := Code.lexes_name h

theorem writes_text (s : String) : Writes (Text.quote s) (.text s) := Code.lexes_quoted s

theorem writes_call {receiver function : String} {e : Expr} {arguments : List String}
    {es : List Expr} {sep : String} (separates : Code.Separates sep.toList)
    (hf : isIdentifier function) (he : Writes receiver e) (h : List.Forall₂ Writes arguments es) :
    Writes (receiver ++ "." ++ function ++ "(" ++ Text.joinWith sep arguments ++ ")")
      (.call e function es) := by
  have chars : (receiver ++ "." ++ function ++ "(" ++ Text.joinWith sep arguments ++ ")").toList =
      receiver.toList ++ ('.' :: function.toList ++
        '(' :: sep.toList.intercalate (arguments.map String.toList) ++ [')']) := by
    simp [Text.toList_joinWith]
  rw [Writes, chars, Expr.lexemes]
  exact Code.lexes_call he (Code.lexes_member hf separates (lexemesAll_of_writes h))

section Statements

variable {q : String} (hq : isIdentifier q)
include hq

theorem writes_callText {function : String} (hf : isIdentifier function) {arguments : List String}
    {es : List Expr} (h : List.Forall₂ Writes arguments es) :
    Writes (callText q function arguments) (.library q function es) :=
  writes_call separates_comma hf (writes_name hq) h

theorem writes_settingText (x : Setting) : Writes (settingText q x) (x.expr q) := by
  cases x with
  | bounds lower upper =>
    exact writes_callText hq (by decide +kernel)
      (.cons (writes_text lower) (.cons (writes_text upper) .nil))
  | default v => exact writes_callText hq (by decide +kernel) (.cons (writes_text v) .nil)
  | composite => exact writes_callText hq (by decide +kernel) .nil
  | derived => exact writes_callText hq (by decide +kernel) .nil
  | opposite n => exact writes_callText hq (by decide +kernel) (.cons (writes_text n) .nil)

theorem writes_termText {t : PropertyTerm} (ht : ∀ x ∈ t.shape.references, isIdentifier x) :
    Writes (termText q t) (t.expr q) := by
  obtain ⟨name, shape, settings⟩ := t
  have asked : List.Forall₂ Writes (settings.map (settingText q)) (settings.map (·.expr q)) := by
    rw [List.forall₂_map_left_iff, List.forall₂_map_right_iff, List.forall₂_same]
    exact fun x _ => writes_settingText hq x
  rcases shape with type | e | c | c | ⟨c, r⟩
  · exact writes_callText hq (by decide +kernel)
      (.cons (writes_text name) (.cons (writes_text type) asked))
  · exact writes_callText hq (by decide +kernel)
      (.cons (writes_text name) (.cons (writes_name (ht e (.head []))) asked))
  · exact writes_callText hq (by decide +kernel)
      (.cons (writes_text name) (.cons (writes_name (ht c (.head []))) asked))
  · exact writes_callText hq (by decide +kernel)
      (.cons (writes_text name) (.cons (writes_name (ht c (.head []))) asked))
  · exact writes_callText hq (by decide +kernel) (.cons (writes_text name)
      (.cons (writes_name (ht c (.head []))) (.cons (writes_text r) asked)))

end Statements

/-! ## Lines -/

theorem toList_unlines (lines : List String) :
    (unlines lines).toList = lines.flatMap fun l => l.toList ++ ['\n'] := by
  have joined (ws : List (List Char)) : ([] : List Char).intercalate ws = ws.flatten := by
    induction ws with
    | nil => rfl
    | cons w ws ih =>
      cases ws with
      | nil => simp
      | cons v ws =>
        rw [List.intercalate_cons_cons, List.append_nil, ih]
        rfl
  rw [unlines, Text.toList_joinWith, String.toList_empty, joined, List.map_map,
    ← List.flatMap_def]
  simp [Function.comp_def]

theorem unlines_cons (l : String) (ls : List String) :
    unlines (l :: ls) = l ++ "\n" ++ unlines ls := by
  rw [← String.toList_inj, toList_unlines, String.toList_append, String.toList_append,
    toList_unlines]
  rfl

/-- Lines that have these lexemes where a statement may begin, and after which one may begin. -/
def HaveLexemes (lines : List String) (ls : List Lexeme) : Prop :=
  ∀ rest, lexemes? false ((unlines lines).toList ++ rest) = (lexemes? false rest).map (ls ++ ·)

namespace HaveLexemes

theorem nil : HaveLexemes [] [] := by
  intro rest
  rw [toList_unlines, List.flatMap_nil, List.nil_append]
  simp

theorem single {line : String} {ls : List Lexeme}
    (h : ∀ rest, lexemes? false (line.toList ++ '\n' :: rest) =
      (lexemes? false rest).map (ls ++ ·)) : HaveLexemes [line] ls := by
  intro rest
  rw [toList_unlines, List.flatMap_singleton, List.append_assoc, List.singleton_append]
  exact h rest

theorem append {lines lines' : List String} {ls ls' : List Lexeme} (h : HaveLexemes lines ls)
    (h' : HaveLexemes lines' ls') : HaveLexemes (lines ++ lines') (ls ++ ls') := by
  intro rest
  rw [toList_unlines, List.flatMap_append, ← toList_unlines, ← toList_unlines, List.append_assoc,
    h, h', Option.map_map]
  congr 1
  funext read
  simp

theorem flatMap {α : Type} {as : List α} {lines : α → List String} {ls : α → List Lexeme}
    (h : ∀ a ∈ as, HaveLexemes (lines a) (ls a)) :
    HaveLexemes (as.flatMap lines) (as.flatMap ls) := by
  induction as with
  | nil => exact nil
  | cons a as ih =>
    rw [List.flatMap_cons, List.flatMap_cons]
    exact (h a List.mem_cons_self).append (ih fun b hb => h b (List.mem_cons_of_mem a hb))

theorem blank : HaveLexemes [""] [] := by
  refine single fun rest => ?_
  rw [String.toList_empty, List.nil_append, Code.lexemes?_gap rfl]
  simp

theorem comment : HaveLexemes ["\t// simple attribute"] [] := by
  refine single fun rest => ?_
  have chars : "\t// simple attribute".toList ++ '\n' :: rest =
      '\t' :: ('/' :: '/' :: " simple attribute".toList ++ '\n' :: rest) := rfl
  rw [chars, Code.lexemes?_gap rfl, Code.lexemes?_comment (by decide), Code.lexemes?_gap rfl]
  simp

/-- An expression on a line of its own. -/
theorem statement {text : String} {ls : List Lexeme} (h : Lexes text.toList ls) :
    HaveLexemes ["\t" ++ text] (ls ++ [.semicolon]) := by
  refine single fun rest => ?_
  have ends : Code.Ends ('\n' :: rest) := Code.ends_cons (by decide +kernel)
  have chars : ("\t" ++ text).toList ++ '\n' :: rest = '\t' :: (text.toList ++ '\n' :: rest) := by
    simp
  rw [chars, Code.lexemes?_gap rfl, h _ _ ends, Code.lexemes?_end, Option.map_map]
  congr 1
  funext read
  simp

/-- Lines after a blank one, if there are any. -/
theorem paragraph {α : Type} {as : List α} {line : α → String} {ls : List Lexeme}
    (h : HaveLexemes (as.map line) ls) :
    HaveLexemes (if as.isEmpty then [] else "" :: as.map line) ls := by
  cases as with
  | nil => exact h
  | cons a as => exact blank.append h

theorem opening : HaveLexemes ["func init() \x7b"] opening := by
  refine single fun rest => ?_
  have word : Code.Scan.token? ('f' :: 'u' :: 'n' :: 'c' :: ' ' ::
      ("init".toList ++ '(' :: ')' :: ' ' :: '\x7b' :: '\n' :: rest)) =
        some (.word, "func".toList,
          ' ' :: ("init".toList ++ '(' :: ')' :: ' ' :: '\x7b' :: '\n' :: rest)) := rfl
  have name := Code.lexes_name (by decide +kernel : isIdentifier "init") false
    ('(' :: ')' :: ' ' :: '\x7b' :: '\n' :: rest) (Code.ends_cons (by decide +kernel))
  have brace : Code.Scan.token? ('\x7b' :: '\n' :: rest) =
      some (.sign, "\x7b".toList, '\n' :: rest) := rfl
  have chars : "func init() \x7b".toList ++ '\n' :: rest = 'f' :: 'u' :: 'n' :: 'c' :: ' ' ::
      ("init".toList ++ '(' :: ')' :: ' ' :: '\x7b' :: '\n' :: rest) := rfl
  have noWord : Lexeme.closes ⟨.word, "func".toList⟩ = false := rfl
  have noBrace : Lexeme.closes ⟨.sign, "\x7b".toList⟩ = false := rfl
  rw [chars, Code.lexemes?_token rfl word (by simp), noWord, Code.lexemes?_gap rfl, name,
    Code.lexemes?_open, Code.lexemes?_close, Code.lexemes?_gap rfl,
    Code.lexemes?_token rfl brace (Nat.le_refl _), noBrace, Code.lexemes?_gap rfl]
  simp only [Option.map_map]
  rfl

theorem closing : HaveLexemes ["\x7d"] closing := by
  refine single fun rest => ?_
  have brace : Code.Scan.token? ('\x7d' :: '\n' :: rest) =
      some (.sign, "\x7d".toList, '\n' :: rest) := rfl
  have ends : Lexeme.closes ⟨.sign, "\x7d".toList⟩ = true := rfl
  have chars : "\x7d".toList ++ '\n' :: rest = '\x7d' :: '\n' :: rest := rfl
  rw [chars, Code.lexemes?_token rfl brace (Nat.le_refl _), ends, Code.lexemes?_end,
    Option.map_map]
  rfl

end HaveLexemes

/-! ## Statements -/

section Statements

variable {q : String} (hq : isIdentifier q)

theorem writes_lookupText {l : PropertyLookup} (h : isIdentifier l.owner) :
    Writes (lookupText l) l.expr := by
  have call := writes_call separates_comma (by decide +kernel : isIdentifier "Property")
    (writes_name h) (.cons (writes_text l.name) .nil)
  have same : lookupText l = l.owner ++ "." ++ "Property" ++ "(" ++
      Text.joinWith ", " [Text.quote l.name] ++ ")" := by
    rw [← String.toList_inj]
    simp [lookupText, Text.toList_joinWith]
  rw [same]
  exact call

include hq

theorem haveLexemes_add {s : AddStatement} (hs : ∀ x ∈ s.references, isIdentifier x) :
    HaveLexemes (s.lines q) ((s.expr q).lexemes ++ [.semicolon]) := by
  obtain ⟨ho, hs⟩ := List.forall_mem_cons.1 hs
  have call := writes_call separates_comma (by decide +kernel : isIdentifier "Add")
    (writes_name ho) (.cons (writes_termText hq hs) .nil)
  have same : "\t" ++ s.owner ++ ".Add(" ++ termText q s.term ++ ")" = "\t" ++
      (s.owner ++ "." ++ "Add" ++ "(" ++ Text.joinWith ", " [termText q s.term] ++ ")") := by
    rw [← String.toList_inj]
    simp [Text.toList_joinWith]
  rw [AddStatement.lines, same]
  by_cases simple : s.simple
  · rw [if_pos simple]
    exact HaveLexemes.comment.append (.statement call)
  · rw [if_neg simple]
    exact .statement call

omit hq

theorem haveLexemes_operation {s : OperationStatement} (ho : isIdentifier s.owner) :
    HaveLexemes [s.line] (s.expr.lexemes ++ [.semicolon]) := by
  have call := writes_call separates_comma (by decide +kernel : isIdentifier "AddOperation")
    (writes_name ho) (.cons (writes_text s.name) .nil)
  have same : s.line = "\t" ++ (s.owner ++ "." ++ "AddOperation" ++ "(" ++
      Text.joinWith ", " [Text.quote s.name] ++ ")") := by
    rw [← String.toList_inj]
    simp [OperationStatement.line, Text.toList_joinWith]
  rw [same]
  exact .statement call

/-- A lookup on a class that is not declared has no variable before its dot. -/
theorem exists_lexes_lookupText {l : PropertyLookup} (h : isIdentifier l.owner ∨ l.owner = "") :
    ∃ ls, Lexes (lookupText l).toList ls ∧ Lexeme.semicolon ∉ ls := by
  rcases h with named | unnamed
  · exact ⟨_, writes_lookupText named, semicolon_not_mem_lexemes _⟩
  · have chars : (lookupText l).toList =
        '.' :: "Property".toList ++ '(' :: ", ".toList.intercalate [(Text.quote l.name).toList] ++
          [')'] := by
      simp [lookupText, unnamed]
    refine ⟨callLexemes "Property" [[.quoted l.name]], ?_, semicolon_not_mem_callLexemes ?_⟩
    · rw [chars]
      exact Code.lexes_member (by decide +kernel) separates_comma
        (.cons (Code.lexes_quoted l.name) .nil)
    · exact semicolon_not_mem_lexemesAll [.text l.name]

include hq

theorem exists_haveLexemes_subsets {s : SubsetsStatement}
    (h : ∀ x ∈ s.references, isIdentifier x ∨ x = "") :
    ∃ ls, HaveLexemes [s.line q] (ls ++ [.semicolon]) ∧ Lexeme.semicolon ∉ ls ∧
      isAddition ls = false := by
  have separates : Code.Separates ",\n\t\t".toList :=
    ⟨['\n', '\t', '\t'], rfl, by simp [Code.Scan.isGap]⟩
  have each : ∀ ls : List PropertyLookup, (∀ l ∈ ls, isIdentifier l.owner ∨ l.owner = "") →
      ∃ lss, List.Forall₂ Lexes (ls.map fun l => (lookupText l).toList) lss ∧
        ∀ ls ∈ lss, Lexeme.semicolon ∉ ls := by
    intro ls hls
    induction ls with
    | nil => exact ⟨[], .nil, by simp⟩
    | cons l ls ih =>
      obtain ⟨hl, hls⟩ := List.forall_mem_cons.1 hls
      obtain ⟨x, hx, noEnd⟩ := exists_lexes_lookupText hl
      obtain ⟨xs, hxs, noEnds⟩ := ih hls
      exact ⟨x :: xs, .cons hx hxs, List.forall_mem_cons.2 ⟨noEnd, noEnds⟩⟩
  have owners : ∀ l ∈ s.union :: s.members, isIdentifier l.owner ∨ l.owner = "" := by
    rwa [SubsetsStatement.references, ← List.map_cons, List.forall_mem_map] at h
  obtain ⟨lss, hlss, noEnd⟩ := each (s.union :: s.members) owners
  have call := Code.lexes_call (Code.lexes_name hq)
    (Code.lexes_member (by decide +kernel : isIdentifier "Subsets") separates hlss)
  have same : s.line q = "\t" ++ (q ++ ".Subsets(" ++
      Text.joinWith ",\n\t\t" ((s.union :: s.members).map lookupText) ++ ")") := by
    rw [← String.toList_inj]
    simp [SubsetsStatement.line]
  refine ⟨[.name q] ++ callLexemes "Subsets" lss, ?_, ?_, rfl⟩
  · rw [same]
    refine .statement ?_
    have chars : (q ++ ".Subsets(" ++
        Text.joinWith ",\n\t\t" ((s.union :: s.members).map lookupText) ++ ")").toList =
          q.toList ++ ('.' :: "Subsets".toList ++ '(' :: ",\n\t\t".toList.intercalate
            ((s.union :: s.members).map fun l => (lookupText l).toList) ++ [')']) := by
      simp [Text.toList_joinWith, Function.comp_def]
    rw [chars]
    exact call
  · rw [List.mem_append, not_or]
    exact ⟨by simp [Lexeme.semicolon, Lexeme.sign, Lexeme.name],
      semicolon_not_mem_callLexemes noEnd⟩

end Statements

section Files

variable {f : File} (hq : isIdentifier f.qualifier)
include hq

theorem exists_haveLexemes_subsetsLines {ss : List SubsetsStatement}
    (h : ∀ s ∈ ss, ∀ x ∈ s.references, isIdentifier x ∨ x = "") :
    ∃ others : List (List Lexeme),
      HaveLexemes (ss.map (SubsetsStatement.line f.qualifier))
        (others.flatMap (· ++ [.semicolon])) ∧
      ∀ ls ∈ others, Lexeme.semicolon ∉ ls ∧ isAddition ls = false := by
  induction ss with
  | nil => exact ⟨[], .nil, by simp⟩
  | cons s ss ih =>
    obtain ⟨hs, hss⟩ := List.forall_mem_cons.1 h
    obtain ⟨ls, text, other⟩ := exists_haveLexemes_subsets hq hs
    obtain ⟨others, texts, all⟩ := ih hss
    exact ⟨ls :: others, text.append texts, List.forall_mem_cons.2 ⟨other, all⟩⟩

/-- The body of the function that fills the classes consists of statements; apart from those that
declare properties and add operations there are others in between. -/
theorem exists_haveLexemes_bodyLines
    (properties : ∀ a ∈ f.properties, ∀ x ∈ a.references, isIdentifier x)
    (subsets : ∀ s ∈ f.subsets, ∀ x ∈ s.references, isIdentifier x ∨ x = "")
    (operations : ∀ o ∈ f.operations, isIdentifier o.owner) :
    ∃ others : List (List Lexeme),
      HaveLexemes (f.bodyLines f.qualifier)
        ((f.properties.map (fun a => (a.expr f.qualifier).lexemes) ++ others ++
          f.operations.map (fun o => o.expr.lexemes)).flatMap (· ++ [.semicolon])) ∧
      ∀ ls ∈ others, Lexeme.semicolon ∉ ls ∧ isAddition ls = false := by
  obtain ⟨others, texts, all⟩ := exists_haveLexemes_subsetsLines hq subsets
  refine ⟨others, ?_, all⟩
  have first : HaveLexemes (f.properties.flatMap (AddStatement.lines f.qualifier))
      ((f.properties.map fun a => (a.expr f.qualifier).lexemes).flatMap (· ++ [.semicolon])) := by
    rw [List.flatMap_map]
    exact .flatMap fun a ha => haveLexemes_add hq (properties a ha)
  have last : HaveLexemes (f.operations.map OperationStatement.line)
      ((f.operations.map fun o => o.expr.lexemes).flatMap (· ++ [.semicolon])) := by
    rw [List.flatMap_map, List.map_eq_flatMap]
    exact .flatMap fun o ho => haveLexemes_operation (operations o ho)
  rw [List.flatMap_append, List.flatMap_append]
  exact (first.append texts.paragraph).append last.paragraph

/-- The statements that declare properties and add operations are read back from the text of the
function that fills the classes. -/
theorem additions?_initLines
    (properties : ∀ a ∈ f.properties, ∀ x ∈ a.references, isIdentifier x)
    (subsets : ∀ s ∈ f.subsets, ∀ x ∈ s.references, isIdentifier x ∨ x = "")
    (operations : ∀ o ∈ f.operations, isIdentifier o.owner) :
    additions? (unlines (f.initLines f.qualifier)) = some f.additions := by
  obtain ⟨others, body, all⟩ := exists_haveLexemes_bodyLines hq properties subsets operations
  let first := f.properties.map fun a => (a.expr f.qualifier).lexemes
  let last := f.operations.map fun o => o.expr.lexemes
  have text := (HaveLexemes.opening.append body).append .closing []
  have read : lexemes? false (unlines (f.initLines f.qualifier)).toList =
      some (opening ++ (first ++ others ++ last).flatMap (· ++ [.semicolon]) ++ closing) := by
    rw [List.append_nil, lexemes?] at text
    simpa [File.initLines] using text
  have apart : ∀ ls ∈ first ++ others ++ last, Lexeme.semicolon ∉ ls := by
    intro ls hls
    rcases List.mem_append.1 hls with hls | hls
    · rcases List.mem_append.1 hls with hls | hls
      · obtain ⟨a, -, rfl⟩ := List.mem_map.1 hls
        exact semicolon_not_mem_lexemes _
      · exact (all ls hls).1
    · obtain ⟨o, -, rfl⟩ := List.mem_map.1 hls
      exact semicolon_not_mem_lexemes _
  have kept : ((first ++ others ++ last) ++ [[]]).filter isAddition =
      f.additions.map Expr.lexemes := by
    have adds : ∀ ls ∈ first, isAddition ls := by
      intro ls hls
      obtain ⟨a, -, rfl⟩ := List.mem_map.1 hls
      rfl
    have operates : ∀ ls ∈ last, isAddition ls := by
      intro ls hls
      obtain ⟨o, -, rfl⟩ := List.mem_map.1 hls
      rfl
    have none : others.filter isAddition = [] :=
      List.filter_eq_nil_iff.2 fun ls hls => Bool.eq_false_iff.1 (all ls hls).2
    have empty : [([] : List Lexeme)].filter isAddition = [] := rfl
    rw [List.filter_append, List.filter_append, List.filter_append, List.filter_eq_self.2 adds,
      none, List.filter_eq_self.2 operates, empty, List.append_nil, List.append_nil,
      File.additions, List.map_append, List.map_map, List.map_map]
    rfl
  rw [additions?, read]
  simp only [Option.bind_eq_bind, Option.bind_some, body?_append, splitOn_statements apart, kept]
  exact mapM_expression?_lexemes f.additions

end Files

end ModelCompiler.Source
