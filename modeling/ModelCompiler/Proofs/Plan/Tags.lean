import Mathlib.Data.List.Induction
import ModelCompiler.Plan.Tags

/-!
# Tags in any layout

The tags of a property stand in the slots of its applied stereotypes.  Of the slots for one tag the
last counts, and of its text what is left without blanks.  Main statement: the tags are those of the
last slots, and the names of unions are read back however they are written, with blanks anywhere and
more commas than are needed.
-/

namespace ModelCompiler

/-! ## Pieces between commas -/

namespace Text

variable {cs w : List Char} {c : Char}

/-- The pieces between commas that are not empty. -/
def pieces (cs : List Char) : List (List Char) := (cs.splitOn ',').filter (· ≠ [])

@[simp] theorem pieces_nil : pieces [] = [] := rfl

@[simp] theorem pieces_append_comma (cs ds : List Char) :
    pieces (cs ++ ',' :: ds) = pieces cs ++ pieces ds := by
  rw [pieces, List.splitOn_append_cons_self, List.filter_append]
  rfl

@[simp] theorem pieces_comma_cons (cs : List Char) : pieces (',' :: cs) = pieces cs :=
  pieces_append_comma [] cs

theorem pieces_eq_singleton (some : cs ≠ []) (plain : ',' ∉ cs) : pieces cs = [cs] := by
  rw [pieces, List.splitOn_eq_singleton plain, List.filter_eq_self]
  exact List.forall_mem_singleton.2 (decide_eq_true some)

theorem of_mem_pieces (h : w ∈ pieces cs) : w ≠ [] ∧ ∀ c ∈ w, c ∈ cs ∧ c ≠ ',' := by
  obtain ⟨piece, some⟩ := List.mem_filter.1 h
  rw [List.splitOn_eq_splitOnP] at piece
  exact ⟨of_decide_eq_true some,
    fun c hc => (of_mem_splitOnP piece c hc).imp_right fun other => by simpa using other⟩

@[simp] theorem squeeze_nil : squeeze [] = [] := rfl

@[simp] theorem squeeze_append (cs ds : List Char) :
    squeeze (cs ++ ds) = squeeze cs ++ squeeze ds := by
  simp only [squeeze_eq_filter, List.filter_append]

@[simp] theorem squeeze_cons_of_isBlank (h : isBlank c) (cs : List Char) :
    squeeze (c :: cs) = squeeze cs := by
  rw [squeeze_eq_filter, squeeze_eq_filter, List.filter_cons_of_neg (by simp [h])]

@[simp] theorem squeeze_comma_cons (cs : List Char) : squeeze (',' :: cs) = ',' :: squeeze cs := by
  rw [squeeze_eq_filter, squeeze_eq_filter, List.filter_cons_of_pos rfl]

theorem squeeze_eq_self (h : ∀ c ∈ cs, isBlank c = false) : squeeze cs = cs := by
  rw [squeeze_eq_filter, List.filter_eq_self]
  exact fun c hc => by rw [h c hc, Bool.not_false]

end Text

namespace Tags

open Text (pieces squeeze isBlank)

variable {names : List String} {text : List Char} {n : String}

/-! ## Names in any layout -/

/-- A name that can stand in a list: there is something of it, and it has no blanks and no
commas. -/
def IsName (n : String) : Prop := n ≠ "" ∧ ∀ c ∈ n.toList, isBlank c = false ∧ c ≠ ','

instance (n : String) : Decidable (IsName n) :=
  @instDecidableAnd _ _ inferInstance (List.decidableBAll _ n.toList)

/-- The names are written with commas between them, and then blanks are put in anywhere and commas
beside commas or at the ends. -/
inductive Layout (names : List String) : List Char → Prop
  | plain : Layout names ([','].intercalate (names.map String.toList))
  | blank {u v : List Char} {c : Char} : isBlank c → Layout names (u ++ v) →
      Layout names (u ++ c :: v)
  | comma {u v : List Char} : Layout names (u ++ ',' :: v) → Layout names (u ++ ',' :: ',' :: v)
  | first {v : List Char} : Layout names v → Layout names (',' :: v)
  | last {u : List Char} : Layout names u → Layout names (u ++ [','])

theorem IsName.pieces_squeeze (h : IsName n) : pieces (squeeze n.toList) = [n.toList] := by
  obtain ⟨some, clean⟩ := h
  rw [Text.squeeze_eq_self fun c hc => (clean c hc).1]
  exact Text.pieces_eq_singleton (mt String.toList_eq_nil_iff.1 some) fun comma =>
    (clean _ comma).2 rfl

/-- What is put in beside the names does not change how they are read. -/
theorem Layout.pieces_squeeze (h : Layout names text) (clean : ∀ n ∈ names, IsName n) :
    pieces (squeeze text) = names.map String.toList := by
  induction h with
  | plain =>
    induction names with
    | nil => rfl
    | cons n names ih =>
      obtain ⟨name, others⟩ := List.forall_mem_cons.1 clean
      cases names with
      | nil => simpa using name.pieces_squeeze
      | cons m names =>
        specialize ih others
        simp only [List.map_cons] at ih ⊢
        simp [List.intercalate_cons_cons, name.pieces_squeeze, ih]
  | blank dark _ ih => simpa [dark] using ih
  | comma _ ih => simpa using ih
  | first _ ih => simpa using ih
  | last _ ih => simpa using ih

theorem names_eq (value : List Char) : Tags.names value = (pieces value).map String.ofList := by
  rw [Tags.names, Text.splitBy_eq_splitOnP, pieces, List.splitOn_eq_splitOnP]
  congr 2
  funext w
  cases w <;> rfl

theorem isName_of_mem_names {value : List Char} (h : n ∈ Tags.names (squeeze value)) :
    IsName n := by
  rw [names_eq] at h
  obtain ⟨w, hw, rfl⟩ := List.mem_map.1 h
  obtain ⟨some, inside⟩ := Text.of_mem_pieces hw
  refine ⟨mt String.ofList_eq_empty_iff.1 some, fun c hc => ?_⟩
  rw [String.toList_ofList] at hc
  exact (inside c hc).imp_left Text.not_isBlank_of_mem_squeeze

theorem names_squeeze_of_layout (h : Layout names text) (clean : ∀ n ∈ names, IsName n) :
    Tags.names (squeeze text) = names := by
  rw [names_eq, h.pieces_squeeze clean, List.map_map]
  exact (List.map_congr_left fun n _ => String.ofList_toList).trans (List.map_id names)

end Tags

/-! ## The last slot counts -/

/-- Where every step replaces what is looked at or leaves it, the last replacement stays. -/
theorem foldl_last {σ α β : Type} {f : σ → α → σ} {view : σ → β} {p : α → Bool} {v : α → β}
    (step : ∀ s a, view (f s a) = if p a then v a else view s) (s : σ) (as : List α) :
    view (as.foldl f s) = (as.filter p).getLast?.elim (view s) v := by
  induction as using List.reverseRecOn with
  | nil => rfl
  | append_singleton as a ih =>
    rw [List.foldl_append, List.foldl_cons, List.foldl_nil, step, List.filter_append]
    by_cases h : p a
    · simp [h]
    · simp [h, ih]

namespace Graph

variable {g : Graph}

/-- Whether a slot is for a tag: the first of its features that there is has the name of the tag. -/
def isSlotFor (g : Graph) (tag : String) (slot : Element) : Bool :=
  (g.resolveFirst? slot "definingFeature").any (·.name == tag)

/-- The text of the last slot for a tag, among the slots of stereotypes in order. -/
def tagText? (g : Graph) (stereotypes : List Element) (tag : String) : Option (List Char) :=
  (((stereotypes.flatMap fun s => g.resolve s "slot").filter (g.isSlotFor tag)).getLast?).map
    fun slot => (slot.text "value").toList

theorem readSlot_eq (t : Tags) (slot : Element) :
    Tags.readSlot g t slot =
      { subsets := if g.isSlotFor "subsets" slot then
          Tags.names (Text.squeeze (slot.text "value").toList) else t.subsets
        redefines := if g.isSlotFor "redefines" slot then
          Text.squeezed (slot.text "value") else t.redefines } := by
  rw [Tags.readSlot, isSlotFor, isSlotFor]
  cases g.resolveFirst? slot "definingFeature" with
  | none => rfl
  | some feature =>
    by_cases subsets : feature.name = "subsets"
    · simp [subsets]
    · by_cases redefines : feature.name = "redefines" <;> simp [subsets, redefines]

theorem subsets_read (g : Graph) (stereotypes : List Element) :
    (Tags.read g stereotypes).subsets =
      (g.tagText? stereotypes "subsets").elim [] fun v => Tags.names (Text.squeeze v) := by
  rw [Tags.read, foldl_last fun t slot => congrArg Tags.subsets (readSlot_eq t slot), tagText?,
    Option.elim_map]
  rfl

theorem redefines_read (g : Graph) (stereotypes : List Element) :
    (Tags.read g stereotypes).redefines =
      (g.tagText? stereotypes "redefines").elim "" fun v => String.ofList (Text.squeeze v) := by
  rw [Tags.read, foldl_last fun t slot => congrArg Tags.redefines (readSlot_eq t slot), tagText?,
    Option.elim_map]
  rfl

end Graph

/-- The unions that a property subsets are the pieces between commas of what the last slot for them
says without its blanks, apart from empty ones, and what it redefines is what the last slot for that
says without its blanks; there is nothing of either where it has no slot. So no name of a union is
empty or has a blank or a comma in it, and names without these are read back from every layout. -/
theorem tags_of_last_slots (g : Graph) (stereotypes : List Element) :
    (Tags.read g stereotypes).subsets =
        ((g.tagText? stereotypes "subsets").elim [] fun v =>
          (((v.filter fun c => !Text.isBlank c).splitOn ',').filter (· ≠ [])).map String.ofList) ∧
      (Tags.read g stereotypes).redefines =
        ((g.tagText? stereotypes "redefines").elim "" fun v =>
          String.ofList (v.filter fun c => !Text.isBlank c)) ∧
      (∀ n ∈ (Tags.read g stereotypes).subsets, Tags.IsName n) ∧
      ∀ names text, (∀ n ∈ names, Tags.IsName n) → Tags.Layout names text →
        g.tagText? stereotypes "subsets" = some text →
          (Tags.read g stereotypes).subsets = names := by
  simp only [← Text.squeeze_eq_filter]
  refine ⟨?_, g.redefines_read stereotypes, ?_, ?_⟩
  · rw [g.subsets_read]
    exact congrArg _ (funext fun v => Tags.names_eq _)
  · rw [g.subsets_read]
    cases g.tagText? stereotypes "subsets" with
    | none => exact fun n hn => absurd hn List.not_mem_nil
    | some v => exact fun n hn => Tags.isName_of_mem_names hn
  · intro names text clean layout last
    rw [g.subsets_read, last]
    exact Tags.names_squeeze_of_layout layout clean

/-- Two stereotypes with a slot each: the tag of the second one counts, where names are written with
blanks inside and with more commas than are needed. -/
def notes : Graph where
  elements :=
    [⟨"first", "InstanceSpecification", [("slot", .ref "plain")]⟩,
     ⟨"plain", "Slot", [("definingFeature", .ref "subsets"), ("value", .scalar "parts")]⟩,
     ⟨"second", "InstanceSpecification", [("slot", .refList ["gone", "loose", "other"])]⟩,
     ⟨"loose", "Slot",
       [("definingFeature", .refList ["gone", "subsets"]), ("value", .scalar " member,, own er")]⟩,
     ⟨"other", "Slot", [("definingFeature", .ref "redefines"), ("value", .scalar "na me")]⟩,
     ⟨"subsets", "Property", [("name", .scalar "subsets")]⟩,
     ⟨"redefines", "Property", [("name", .scalar "redefines")]⟩]
  ids_nodup := (by decide : ["first", "plain", "second", "loose", "other", "subsets",
    "redefines"].Nodup)
  ids_ne := by simp

theorem tags_of_last_slots_notes :
    let applied : List Element := notes.elements.filter (·.type == "InstanceSpecification")
    notes.tagText? applied "subsets" = some " member,, own er".toList ∧
      Tags.Layout ["member", "owner"] " member,, own er".toList ∧
      (∀ n ∈ ["member", "owner"], Tags.IsName n) ∧
      Tags.read notes applied = { subsets := ["member", "owner"], redefines := "name" } := by
  intro applied
  have last : notes.tagText? applied "subsets" = some " member,, own er".toList := by decide
  have layout : Tags.Layout ["member", "owner"] " member,, own er".toList := by
    have least : Tags.Layout ["member", "owner"] "member,owner".toList := .plain
    have commas : Tags.Layout ["member", "owner"] "member,,owner".toList :=
      .comma (u := "member".toList) (v := "owner".toList) least
    have inside : Tags.Layout ["member", "owner"] "member,,own er".toList :=
      .blank (u := "member,,own".toList) (v := "er".toList) rfl commas
    have between : Tags.Layout ["member", "owner"] "member,, own er".toList :=
      .blank (u := "member,,".toList) (v := "own er".toList) rfl inside
    exact .blank (u := []) rfl between
  have clean : ∀ n ∈ ["member", "owner"], Tags.IsName n := by decide
  obtain ⟨-, redefines, -, subsets⟩ := tags_of_last_slots notes applied
  refine ⟨last, layout, clean, ?_⟩
  have name : (Tags.read notes applied).redefines = "name" := by
    rw [redefines]
    decide
  rw [← subsets _ _ clean layout last, ← name]

end ModelCompiler
