import ModelCompiler.Plan.Resolve
import ModelCompiler.Proofs.Source.Omissions
import ModelCompiler.Proofs.Source.Printing
import ModelCompiler.Proofs.Source.Unions

/-!
# Comments of one line

What a file says in comments has names from the model in it, and these can hold any text, also the
end of a line.  What follows the end of a line is code.  Main statement: every notice stands on one
line, since its blanks are made single spaces, but the omissions stand on one line each if and only
if the names that they tell of do.
-/

namespace ModelCompiler

/-! ## Lines -/

namespace Text

/-- The characters that end a line comment. -/
def isLineEnd (c : Char) : Bool := c == '\n' || c == '\r'

/-- A text without the end of a line. -/
def IsLine (s : String) : Prop := ∀ c ∈ s.toList, isLineEnd c = false

instance : DecidablePred IsLine := fun s =>
  List.decidableBAll (fun c => isLineEnd c = false) s.toList

def lines (s : String) : List String := (s.toList.splitOnP isLineEnd).map String.ofList

@[simp] theorem isLine_append {s s' : String} : IsLine (s ++ s') ↔ IsLine s ∧ IsLine s' := by
  simp only [IsLine, String.toList_append, List.forall_mem_append]

theorem lines_of_isLine {s : String} (h : IsLine s) : lines s = [s] := by
  rw [lines, List.splitOnP_eq_singleton h, List.map_singleton, String.ofList_toList]

theorem lines_append_end (s s' : String) : lines (s ++ "\n" ++ s') = lines s ++ lines s' := by
  have chars : (s ++ "\n" ++ s').toList = s.toList ++ '\n' :: s'.toList := by simp
  rw [lines, chars, List.splitOnP_append_cons _ _ rfl, List.map_append]
  rfl

theorem isLine_of_mem_lines {s l : String} (h : l ∈ lines s) : IsLine l := by
  obtain ⟨w, hw, rfl⟩ := List.mem_map.1 h
  rw [IsLine, String.toList_ofList]
  exact fun c hc => (of_mem_splitOnP hw c hc).2

/-! ### Words on one line -/

theorem not_isBlank_of_mem_words {cs w : List Char} (hw : w ∈ words cs) :
    ∀ c ∈ w, isBlank c = false := by
  -- one case for each branch of `words`
  fun_induction words cs generalizing w with
  | case1 => cases hw
  | case2 c cs blank ih => exact ih hw
  | case3 c dark =>
    obtain rfl := List.mem_singleton.1 hw
    simpa using dark
  | case4 c dark d cs blank ih =>
    rcases List.mem_cons.1 hw with rfl | hw
    · simpa using dark
    · exact ih hw
  | case5 c dark d cs _ first rest same ih =>
    rw [same] at hw ih
    rcases List.mem_cons.1 hw with rfl | hw
    · rintro e (- | ⟨-, he⟩)
      · simpa using dark
      · exact ih List.mem_cons_self e he
    · exact ih (List.mem_cons_of_mem _ hw)
  | case6 c dark d cs _ same =>
    rw [same] at hw
    obtain rfl := List.mem_singleton.1 hw
    simpa using dark

theorem isBlank_of_isLineEnd {c : Char} (h : isLineEnd c) : isBlank c := by
  rcases Bool.or_eq_true_iff.1 h with h | h
  · rw [eq_of_beq h]
    rfl
  · rw [eq_of_beq h]
    rfl

/-- Blanks, the ends of lines among them, are made single spaces. -/
theorem isLine_oneLine (s : String) : IsLine (oneLine s) := by
  intro c hc
  rw [oneLine, String.toList_ofList] at hc
  rcases mem_intercalate hc with hc | ⟨w, hw, hc⟩
  · rw [List.mem_singleton.1 hc]
    rfl
  · refine Bool.eq_false_iff.2 fun h => ?_
    have blank := isBlank_of_isLineEnd h
    rw [not_isBlank_of_mem_words hw c hc] at blank
    cases blank

end Text

open Text (IsLine isLine_append)

namespace Source

/-- Texts that are written one after the other, each with its end, are what is read as lines if and
only if none of them has an end of a line in it. -/
theorem lines_unlines_iff {ls : List String} :
    Text.lines (unlines ls) = ls ++ [""] ↔ ∀ l ∈ ls, IsLine l := by
  constructor
  · intro same l hl
    refine Text.isLine_of_mem_lines (s := unlines ls) ?_
    rw [same]
    exact List.mem_append_left _ hl
  · intro plain
    induction ls with
    | nil => rfl
    | cons l ls ih =>
      obtain ⟨hl, plain⟩ := List.forall_mem_cons.1 plain
      rw [unlines_cons, Text.lines_append_end, Text.lines_of_isLine hl, ih plain]
      rfl

/-! ## Names in comments -/

namespace Omission

/-- What the text of an omission has from the recording. -/
def names : Omission → List String
  | propertyOfNoClass c n | operationOfNoClass c n => [c, n]
  | repeated q => [q]
  | noType q t => [q, t]
  | noMember m u => [m, u]

theorem isLine_text_iff (o : Omission) : IsLine o.text ↔ ∀ n ∈ o.names, IsLine n := by
  cases o <;> simp +decide +contextual [text, names]

end Omission

theorem isLine_qualified {owner name : String} :
    IsLine (owner ++ "." ++ name) ↔ IsLine owner ∧ IsLine name := by
  simp +decide

namespace Recording

/-- An omission in the file of a recording tells of names. -/
inductive Tells (r : Recording) : List String → Prop
  /-- The owner and the name of a descriptor that is not declared. -/
  | descriptor {x : Descriptor × Nat} (hx : x ∈ r.descriptors.zipIdx) (left : x ∉ r.rendered) :
    Tells r [x.1.className, x.1.name]
  /-- The type of an end, if it is not recorded. -/
  | type {d : Descriptor} {e : End} (hd : d ∈ r.descriptors) (he : d.end? = some e)
    (missing : e.typeName ∉ r.classes.map (·.name)) : Tells r [e.typeName]
  /-- The owners and the names of a declared union and of a member that is not declared. -/
  | member {u : DerivedUnion} {m : End} (hu : u ∈ r.unions)
    (declared : u.toEnd.qualified ∈ r.names) (hm : m ∈ u.members)
    (left : m.qualified ∉ r.names) :
    Tells r [m.className, m.name, u.toEnd.className, u.toEnd.name]
  /-- The owner and the name of an operation, if the owner is not recorded. -/
  | operation {o : ClassOperation} (ho : o ∈ r.operations)
    (left : o.className ∉ r.classes.map (·.name)) : Tells r [o.className, o.name]

variable {r : Recording}

/-- The omission of a descriptor that is not declared tells of its owner and its name, and of its
type if that is not recorded. -/
theorem exists_omission? {x : Descriptor × Nat} (hx : x ∈ r.descriptors.zipIdx)
    (left : x ∉ r.rendered) :
    ∃ o, r.omission? x = some o ∧ (IsLine o.text ↔ (IsLine x.1.className ∧ IsLine x.1.name) ∧
      ∀ e, x.1.end? = some e → e.typeName ∉ r.classes.map (·.name) → IsLine e.typeName) := by
  rcases r.omission?_cases hx with
    ⟨e, he, missing, reason⟩ | ⟨typed, -, reason⟩ | ⟨admitted, -, reason⟩ | ⟨declared, -⟩
  · refine ⟨_, reason, ?_⟩
    obtain ⟨className, name⟩ := Descriptor.className_of_end? he
    have own : IsLine e.qualified ↔ IsLine x.1.className ∧ IsLine x.1.name := by
      rw [← className, ← name]
      exact isLine_qualified
    rw [Omission.isLine_text_iff, Omission.names, List.forall_mem_cons, List.forall_mem_singleton,
      own]
    refine and_congr_right fun _ => ⟨fun plain e' he' _ => ?_, fun plain => plain e he missing⟩
    rw [he] at he'
    cases he'
    exact plain
  · refine ⟨_, reason, ?_⟩
    rw [Omission.isLine_text_iff, Omission.names, List.forall_mem_cons, List.forall_mem_singleton,
      and_iff_left fun e he missing => absurd (typed e he) missing]
  · have typed := (Descriptor.isAdmitted_iff.1 admitted).2
    refine ⟨_, reason, ?_⟩
    rw [Omission.isLine_text_iff, Omission.names, List.forall_mem_singleton,
      and_iff_left fun e he missing => absurd (typed e he) missing]
    exact isLine_qualified
  · exact absurd declared left

theorem not_mem_rendered_of_omission? {x : Descriptor × Nat} {o : Omission}
    (hx : x ∈ r.descriptors.zipIdx) (reason : r.omission? x = some o) : x ∉ r.rendered := by
  intro declared
  rw [omission?_of_isAdmitted hx (isAdmitted_of_mem_rendered declared), if_pos declared] at reason
  cases reason

end Recording

namespace Assembled

variable {t : Target} {header : String} {r : Recording} {classes : List ClassDef} {f : File}

theorem isLine_notices (h : Assembled t header r classes f) : ∀ n ∈ f.notices, IsLine n := by
  rw [h.file_eq]
  intro n hn
  unfold assembled at hn
  dsimp only at hn
  split at hn
  · obtain ⟨comment, -, rfl⟩ := List.mem_map.1 hn
    exact Text.isLine_oneLine comment
  · cases hn

/-- The omissions stand on one line each if the names do that they tell of. -/
theorem isLine_omissions_iff (h : Assembled t header r classes f) :
    (∀ o ∈ f.omissions, IsLine o.text) ↔ ∀ ns, r.Tells ns → ∀ n ∈ ns, IsLine n := by
  have member (m : End) (u : DerivedUnion) :
      IsLine (Omission.noMember m.qualified u.toEnd.qualified).text ↔
        ∀ n ∈ [m.className, m.name, u.toEnd.className, u.toEnd.name], IsLine n := by
    have own (e : End) : IsLine e.qualified ↔ IsLine e.className ∧ IsLine e.name :=
      isLine_qualified
    simp only [Omission.isLine_text_iff, Omission.names, List.forall_mem_cons, own, and_assoc]
  constructor
  · intro plain ns told
    cases told with
    | descriptor hx left =>
      obtain ⟨o, reason, parts⟩ := Recording.exists_omission? hx left
      have own := (parts.1 (plain o (h.mem_omissions.2 (.inl ⟨_, hx, reason⟩)))).1
      simpa using own
    | @type d e hd he missing =>
      obtain ⟨i, hi⟩ := List.mem_iff_getElem?.1 hd
      have hx : (d, i) ∈ r.descriptors.zipIdx := List.mem_zipIdx_iff_getElem?.2 hi
      have left : (d, i) ∉ r.rendered := fun declared =>
        missing (Recording.typeName_mem_of_mem_rendered declared he)
      obtain ⟨o, reason, parts⟩ := Recording.exists_omission? hx left
      have types := (parts.1 (plain o (h.mem_omissions.2 (.inl ⟨_, hx, reason⟩)))).2
      exact List.forall_mem_singleton.2 (types e he missing)
    | @member u m hu declared hm left =>
      have told := h.mem_omissions.2 (.inr (.inl ⟨u, hu, declared, m, hm, left, rfl⟩))
      exact (member m u).1 (plain _ told)
    | @operation p hp left =>
      have told := h.mem_omissions.2 (.inr (.inr ⟨p, hp, left, rfl⟩))
      exact (Omission.isLine_text_iff _).1 (plain _ told)
  · intro plain o ho
    rcases h.mem_omissions.1 ho with
      ⟨x, hx, reason⟩ | ⟨u, hu, declared, m, hm, left, rfl⟩ | ⟨p, hp, left, rfl⟩
    · have left := Recording.not_mem_rendered_of_omission? hx reason
      obtain ⟨o', same, parts⟩ := Recording.exists_omission? hx left
      rw [reason] at same
      cases same
      refine parts.2 ⟨?_, fun e he missing => ?_⟩
      · simpa using plain _ (.descriptor hx left)
      · exact plain _ (.type (List.fst_mem_of_mem_zipIdx hx) he missing) _ List.mem_cons_self
    · exact (member m u).2 (plain _ (.member hu declared hm left))
    · exact (Omission.isLine_text_iff _).2 (plain _ (.operation hp left))

end Assembled

/-- A file has every notice on one line.  It has every omission on one line if and only if no name
of the recording that an omission tells of has the end of a line in it. -/
theorem comments_one_line_iff {t : Target} {header : String} {r : Recording} {f : File}
    (hf : assemble t header r = .ok f) :
    (∀ n ∈ f.notices, IsLine n) ∧
    Text.lines (unlines (f.notices.map ("// " ++ ·))) = f.notices.map ("// " ++ ·) ++ [""] ∧
    ((∀ o ∈ f.omissions, IsLine o.text) ↔ ∀ ns, r.Tells ns → ∀ n ∈ ns, IsLine n) ∧
    (Text.lines (unlines f.omissionLines) = f.omissionLines ++ [""] ↔
      ∀ ns, r.Tells ns → ∀ n ∈ ns, IsLine n) := by
  obtain ⟨classes, h⟩ := assembled_of_assemble hf
  have omissions : (∀ l ∈ f.omissionLines, IsLine l) ↔ ∀ o ∈ f.omissions, IsLine o.text := by
    simp +decide [File.omissionLines]
  refine ⟨h.isLine_notices, lines_unlines_iff.2 ?_, h.isLine_omissions_iff,
    lines_unlines_iff.trans (omissions.trans h.isLine_omissions_iff)⟩
  simpa +decide using h.isLine_notices

/-- A class with an attribute and an end of one name; the end redefines another property. -/
def drawer (name : String) : Graph where
  elements :=
    [⟨"box", "Class", [("name", .scalar "Box"), ("ownedAttribute", .ref "width")]⟩,
     ⟨"width", "Property", [("name", .scalar name)]⟩,
     ⟨"again", "Property",
       [("name", .scalar name), ("class_", .ref "box"), ("type", .ref "box"),
        ("appliedStereotype", .ref "applied")]⟩,
     ⟨"whole", "Property", [("type", .ref "box")]⟩,
     ⟨"link", "Association", [("memberEnd", .refList ["again", "whole"])]⟩,
     ⟨"applied", "InstanceSpecification", [("slot", .ref "slot")]⟩,
     ⟨"slot", "Slot", [("definingFeature", .ref "redefines"), ("value", .scalar "depth")]⟩,
     ⟨"redefines", "Property", [("name", .scalar "redefines")]⟩]
  ids_nodup := (by decide : ["box", "width", "again", "whole", "link", "applied", "slot",
    "redefines"].Nodup)
  ids_ne := by simp

/-- There is a file for what is recorded of `drawer`. -/
theorem assemble_of_classes_drawer {r : Recording} (recorded : r.classes = [⟨⟨"box", "Box"⟩, []⟩])
    (none : r.enumerations = []) : assemble {} "" r = .ok (assembled {} "" r r.classes) := by
  have ordered : classOrder r.classes = .ok (List.range r.classes.length) := by
    rw [recorded]
    decide +kernel
  have structural : takeAll .structural (reservedBy {}) (r.classes.map (·.name)) =
      .ok (("Box", .structural "Box") :: reservedBy {}) := by
    rw [recorded]
    decide +kernel
  exact assemble_of_inOrder {} "" (by decide +kernel) ordered structural (by rw [none]; rfl)

/-- Both comments on the end stand on one line, as its name does. -/
theorem comments_one_line_iff_drawer :
    (resolve (drawer "width") .none {}).fault? = none ∧
    let r := Recording.ofCalls (resolve (drawer "width") .none {}).plan.calls
    ∃ f, assemble {} "" r = .ok f ∧ f.notices = ["redefining depth -> Box.width"] ∧
      f.omissions = [.repeated "Box.width"] ∧ (∀ n ∈ f.notices, IsLine n) ∧
      Text.lines (unlines f.omissionLines) = f.omissionLines ++ [""] ∧
      ∀ ns, r.Tells ns → ∀ n ∈ ns, IsLine n := by
  let r := Recording.ofCalls (resolve (drawer "width") .none {}).plan.calls
  have hf := assemble_of_classes_drawer (r := r) (by decide +kernel) (by decide +kernel)
  have omissions : (assembled {} "" r r.classes).omissions = [.repeated "Box.width"] := by
    decide +kernel
  obtain ⟨notices, -, told, written⟩ := comments_one_line_iff hf
  have plain : ∀ ns, r.Tells ns → ∀ n ∈ ns, IsLine n := by
    refine told.1 ?_
    rw [omissions]
    decide
  exact ⟨by decide +kernel, _, hf, by decide +kernel, omissions, notices, written.2 plain, plain⟩

/-- A name of three lines, of which the last is a declaration, stands on one line in the notice on
the end, and on three where the end is left out. -/
theorem not_one_line_drawer :
    (resolve (drawer "width\n\nvar Height = 3 //") .none {}).fault? = none ∧
    let r := Recording.ofCalls (resolve (drawer "width\n\nvar Height = 3 //") .none {}).plan.calls
    ∃ f, assemble {} "" r = .ok f ∧
      f.notices = ["redefining depth -> Box.width var Height = 3 //"] ∧
      (¬∀ o ∈ f.omissions, IsLine o.text) ∧
      Text.lines (unlines f.omissionLines) = ["// Not generated:", "//   - Box.width", "",
        "var Height = 3 //: declared more than once", ""] := by
  let r := Recording.ofCalls (resolve (drawer "width\n\nvar Height = 3 //") .none {}).plan.calls
  have hf := assemble_of_classes_drawer (r := r) (by decide +kernel) (by decide +kernel)
  have omissions : (assembled {} "" r r.classes).omissions =
      [.repeated "Box.width\n\nvar Height = 3 //"] := by decide +kernel
  refine ⟨by decide +kernel, _, hf, by decide +kernel, fun plain => ?_, ?_⟩
  · rw [omissions] at plain
    exact absurd (plain _ List.mem_cons_self) (by decide)
  · rw [File.omissionLines, omissions]
    decide +kernel

end Source

end ModelCompiler
