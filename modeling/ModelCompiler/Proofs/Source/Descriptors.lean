import Mathlib.Data.List.Induction
import ModelCompiler.Proofs.Source.Assembly

/-!
# The descriptors that a file declares

Properties are recorded by kind, and a file declares those that it can: the owner has to be a
recorded class, so has the type of an end, and a qualified name is declared once.  Descriptors are
told apart by their places in the recording, since two of them may be equal.  Main statement: the
statements of a file are those of the descriptors that are the first of their qualified names among
the admitted ones.
-/

namespace ModelCompiler.Source

/-- A recorded property of any kind. -/
inductive Descriptor where
  | attribute (a : Attribute)
  | association (head : End) (tail? : Option End)
  | redefinition (e : End)
  | derivedUnion (u : DerivedUnion)
deriving DecidableEq, Repr

namespace Descriptor

def end? : Descriptor → Option End
  | .attribute _ => none
  | .association e _ | .redefinition e => some e
  | .derivedUnion u => some u.toEnd

def className : Descriptor → String
  | .attribute a => a.className
  | .association e _ | .redefinition e => e.className
  | .derivedUnion u => u.toEnd.className

def name : Descriptor → String
  | .attribute a => a.name
  | .association e _ | .redefinition e => e.name
  | .derivedUnion u => u.toEnd.name

def qualified (d : Descriptor) : String := d.className ++ "." ++ d.name

/-- Whether the owner, and for an end the type as well, is one of the classes. -/
def isAdmitted (classes : List String) (d : Descriptor) : Bool :=
  classes.contains d.className && d.end?.all fun e => classes.contains e.typeName

/-- The term for a descriptor whose type is declared. -/
def term (s : Scope) : Descriptor → PropertyTerm
  | .attribute a => attributeTerm s a
  | .association head tail? => associationTerm head tail? (identifierFor head.typeName)
  | .redefinition e => endTerm e (.redefinition (identifierFor e.typeName) e.redefines)
  | .derivedUnion u => endTerm u.toEnd (.derivedUnion (identifierFor u.toEnd.typeName))

def isSimple : Descriptor → Bool
  | .attribute a => a.source == .simple
  | _ => false

def statement (s : Scope) (d : Descriptor) : AddStatement where
  owner := identifierFor d.className
  term := d.term s
  simple := d.isSimple

theorem isAdmitted_iff {classes : List String} {d : Descriptor} : d.isAdmitted classes ↔
    d.className ∈ classes ∧ ∀ e, d.end? = some e → e.typeName ∈ classes := by
  rw [isAdmitted, Bool.and_eq_true, List.contains_iff_mem, Option.all_eq_true]
  simp only [List.contains_iff_mem]

end Descriptor

/-- The descriptors that are admitted and have none before them that is admitted and has their
qualified name, with their places. -/
def firsts (admits : Descriptor → Bool) (ds : List Descriptor) : List (Descriptor × Nat) :=
  ds.zipIdx.filter fun x =>
    admits x.1 && !(ds.take x.2).any fun d => admits d && d.qualified == x.1.qualified

/-- What stands before a place does not depend on what is appended. -/
theorem take_append_of_mem_zipIdx {α : Type} {as : List α} {x : α × Nat} (hx : x ∈ as.zipIdx)
    {bs : List α} : (as ++ bs).take x.2 = as.take x.2 := by
  have hi : x.2 < as.length :=
    (List.getElem?_eq_some_iff.1 (List.mem_zipIdx_iff_getElem?.1 hx)).1
  exact List.take_append_of_le_length (Nat.le_of_lt hi)

section Firsts

variable {admits : Descriptor → Bool} {ds : List Descriptor}

theorem mem_firsts {d : Descriptor} {i : Nat} :
    (d, i) ∈ firsts admits ds ↔ ds[i]? = some d ∧ admits d ∧
      ∀ e ∈ ds.take i, admits e → e.qualified ≠ d.qualified := by
  simp [firsts, List.mem_zipIdx_iff_getElem?]

/-- One more descriptor is declared if it is admitted and its qualified name is not taken. -/
theorem firsts_append (d : Descriptor) :
    firsts admits (ds ++ [d]) = firsts admits ds ++
      if admits d ∧ ∀ e ∈ ds, admits e → e.qualified ≠ d.qualified then [(d, ds.length)]
      else [] := by
  rw [firsts, List.zipIdx_append, List.filter_append]
  congr 1
  · apply List.filter_congr
    intro x hx
    rw [take_append_of_mem_zipIdx hx]
  · split
    · rename_i h
      simpa [h.1] using h.2
    · rename_i h
      simpa using h

/-- Every qualified name of an admitted descriptor is declared. -/
theorem mem_qualified_firsts {q : String} :
    q ∈ (firsts admits ds).map (·.1.qualified) ↔ ∃ d ∈ ds, admits d ∧ d.qualified = q := by
  induction ds using List.reverseRecOn with
  | nil => simp [firsts]
  | append_singleton ds d ih =>
    rw [firsts_append, List.map_append, List.mem_append, ih]
    constructor
    · rintro (⟨e, he, ha, hq⟩ | hd)
      · exact ⟨e, List.mem_append_left _ he, ha, hq⟩
      · split at hd
        · rename_i h
          obtain rfl := List.mem_singleton.1 hd
          exact ⟨d, by simp, h.1, rfl⟩
        · simp at hd
    · rintro ⟨e, he, ha, hq⟩
      by_cases earlier : ∃ c ∈ ds, admits c ∧ c.qualified = q
      · exact .inl earlier
      · rcases List.mem_append.1 he with he | he
        · exact absurd ⟨e, he, ha, hq⟩ earlier
        · obtain rfl := List.mem_singleton.1 he
          have free : ∀ c ∈ ds, admits c → c.qualified ≠ e.qualified :=
            fun c hc hac h => earlier ⟨c, hc, hac, h.trans hq⟩
          rw [if_pos ⟨ha, free⟩]
          exact .inr (List.mem_singleton.2 hq.symm)

/-- Of the earlier descriptors it is enough to look at those that are declared. -/
theorem mem_firsts_iff {d : Descriptor} {i : Nat} :
    (d, i) ∈ firsts admits ds ↔ ds[i]? = some d ∧ admits d ∧
      ∀ x ∈ firsts admits ds, x.2 < i → x.1.qualified ≠ d.qualified := by
  rw [mem_firsts]
  refine and_congr_right fun hd => and_congr_right fun _ => ?_
  constructor
  · rintro free ⟨e, j⟩ hx hji
    obtain ⟨he, ha, -⟩ := mem_firsts.1 hx
    refine free e (List.mem_of_getElem? (i := j) ?_) ha
    rw [List.getElem?_take_of_lt hji, he]
  · intro free e he ha hq
    obtain ⟨⟨c, j⟩, hx, hc⟩ := List.mem_map.1 (mem_qualified_firsts.2 ⟨e, he, ha, hq⟩)
    obtain ⟨hj, hac, first⟩ := mem_firsts.1 hx
    rw [List.getElem?_take] at hj
    split at hj
    · rename_i hji
      rw [List.take_take, Nat.min_eq_left (Nat.le_of_lt hji)] at first
      exact free (c, j) (mem_firsts.2 ⟨hj, hac, first⟩) hji hc
    · cases hj

theorem qualified_firsts_nodup : ((firsts admits ds).map (·.1.qualified)).Nodup := by
  induction ds using List.reverseRecOn with
  | nil => simp [firsts]
  | append_singleton ds d ih =>
    rw [firsts_append, List.map_append]
    split
    · rename_i h
      refine List.nodup_append.2 ⟨ih, by simp, ?_⟩
      intro q hq q' hq'
      obtain ⟨e, he, ha, rfl⟩ := mem_qualified_firsts.1 hq
      obtain rfl := List.mem_singleton.1 hq'
      exact h.2 e he ha
    · simpa using ih

end Firsts

/-! ## What is declared -/

namespace Recording

/-- All recorded properties, in the order in which they are declared. -/
def descriptors (r : Recording) : List Descriptor :=
  r.attributes.map .attribute ++ r.associations.map (fun a => .association a.1 a.2) ++
    r.redefinitions.map .redefinition ++ r.unions.map .derivedUnion

/-- The descriptors that are declared, with their places among all of them: the owner and the type
of an end are recorded, and none of the earlier ones that are declared has the qualified name. -/
def rendered (r : Recording) : List (Descriptor × Nat) :=
  firsts (·.isAdmitted (r.classes.map (·.name))) r.descriptors

/-- The qualified names that are declared. -/
def names (r : Recording) : List String := r.rendered.map (·.1.qualified)

theorem mem_rendered_iff {r : Recording} {d : Descriptor} {i : Nat} :
    (d, i) ∈ r.rendered ↔ r.descriptors[i]? = some d ∧
      d.isAdmitted (r.classes.map (·.name)) ∧
      ∀ x ∈ r.rendered, x.2 < i → x.1.qualified ≠ d.qualified := mem_firsts_iff

theorem names_nodup (r : Recording) : r.names.Nodup := qualified_firsts_nodup

theorem isAdmitted_of_mem_rendered {r : Recording} {x : Descriptor × Nat} (hx : x ∈ r.rendered) :
    x.1.isAdmitted (r.classes.map (·.name)) := (mem_firsts.1 hx).2.1

theorem className_mem_of_mem_rendered {r : Recording} {x : Descriptor × Nat}
    (hx : x ∈ r.rendered) : x.1.className ∈ r.classes.map (·.name) :=
  (Descriptor.isAdmitted_iff.1 (isAdmitted_of_mem_rendered hx)).1

theorem typeName_mem_of_mem_rendered {r : Recording} {x : Descriptor × Nat} {e : End}
    (hx : x ∈ r.rendered) (he : x.1.end? = some e) : e.typeName ∈ r.classes.map (·.name) :=
  (Descriptor.isAdmitted_iff.1 (isAdmitted_of_mem_rendered hx)).2 e he

end Recording

namespace Members

/-- Declares a property of any kind. -/
def addDescriptor (s : Scope) (m : Members) : Descriptor → Members
  | .attribute a => m.addAttribute s a
  | .association head tail? => m.addAssociation s (head, tail?)
  | .redefinition e => m.addRedefinition s e
  | .derivedUnion u => m.addUnion s u

theorem ofRecording_eq (s : Scope) (r : Recording) :
    ofRecording s r = r.descriptors.foldl (addDescriptor s) {} := by
  simp only [Recording.descriptors, List.foldl_append, List.foldl_map]
  rfl

/-- What a step leaves declared, and by which statements. -/
def made (m : Members) : List String × List AddStatement := (m.declared, m.properties)

theorem made_add (s : Scope) (m : Members) (className : String)
    (term : PropertyTerm) (simple : Bool) :
    (m.add s className term simple).made =
      if s.classes.contains className ∧ className ++ "." ++ term.name ∉ m.declared then
        (m.declared ++ [className ++ "." ++ term.name],
          m.properties ++ [{ owner := identifierFor className, term, simple }])
      else m.made := by
  by_cases hc : className ∈ s.classes
  · by_cases hq : className ++ "." ++ term.name ∈ m.declared
    · simp [add, Scope.class?, hc, hq, made, leaveOut]
    · simp [add, Scope.class?, hc, hq, made]
  · simp [add, Scope.class?, hc, made, leaveOut]

theorem made_addEnd (s : Scope) (m : Members) (e : End)
    {term : String → PropertyTerm} (hn : ∀ type, (term type).name = e.name) :
    (m.addEnd s e term).made =
      if (s.classes.contains e.className && s.classes.contains e.typeName) ∧
          e.qualified ∉ m.declared then
        (m.declared ++ [e.qualified], m.properties ++
          [{ owner := identifierFor e.className, term := term (identifierFor e.typeName) }])
      else m.made := by
  by_cases hc : e.typeName ∈ s.classes
  · have added := made_add s m e.className (term (identifierFor e.typeName)) false
    rw [hn] at added
    simpa [addEnd, Scope.class?, hc, End.qualified] using added
  · simp [addEnd, Scope.class?, hc, made, leaveOut]

/-- A descriptor is declared if it is admitted and its qualified name is new. -/
theorem made_addDescriptor (s : Scope) (m : Members) (d : Descriptor) :
    (m.addDescriptor s d).made =
      if d.isAdmitted s.classes ∧ d.qualified ∉ m.declared then
        (m.declared ++ [d.qualified], m.properties ++ [d.statement s])
      else m.made := by
  obtain a | ⟨head, tail?⟩ | e | u := d
  · simp only [Descriptor.isAdmitted, Descriptor.end?, Option.all_none, Bool.and_true]
    exact made_add s m a.className (attributeTerm s a) _
  · exact made_addEnd s m head fun _ => rfl
  · exact made_addEnd s m e fun _ => rfl
  · exact made_addEnd s m u.toEnd fun _ => rfl

/-- The statements are those of the descriptors that are declared. -/
theorem made_foldl_addDescriptor (s : Scope) (ds : List Descriptor) :
    (ds.foldl (addDescriptor s) {}).made =
      ((firsts (·.isAdmitted s.classes) ds).map (·.1.qualified),
        (firsts (·.isAdmitted s.classes) ds).map (·.1.statement s)) := by
  induction ds using List.reverseRecOn with
  | nil => rfl
  | append_singleton ds d ih =>
    obtain ⟨declared, properties⟩ := Prod.ext_iff.1 ih
    have free : d.qualified ∉ (ds.foldl (addDescriptor s) {}).declared ↔
        ∀ e ∈ ds, e.isAdmitted s.classes → e.qualified ≠ d.qualified := by
      rw [show (ds.foldl (addDescriptor s) {}).declared = _ from declared, mem_qualified_firsts]
      exact ⟨fun h e he ha hq => h ⟨e, he, ha, hq⟩, fun h ⟨e, he, ha, hq⟩ => h e he ha hq⟩
    rw [List.foldl_append, List.foldl_cons, List.foldl_nil, made_addDescriptor, firsts_append]
    simp only [free]
    split
    · rw [List.map_append, List.map_append]
      exact Prod.ext (congrArg (· ++ _) declared) (congrArg (· ++ _) properties)
    · rw [List.append_nil]
      exact ih

end Members

/-! ## What a file declares -/

namespace Assembled

variable {t : Target} {header : String} {r : Recording} {classes : List ClassDef} {f : File}

theorem mem_classes_scope (h : Assembled t header r classes f) {name : String} :
    name ∈ f.scope.classes ↔ name ∈ r.classes.map (·.name) := by
  rw [h.scope_eq]
  exact (h.perm.map (·.name)).mem_iff

theorem contains_classes_scope (h : Assembled t header r classes f) (name : String) :
    f.scope.classes.contains name = (r.classes.map (·.name)).contains name := by
  rw [Bool.eq_iff_iff, List.contains_iff_mem, List.contains_iff_mem]
  exact h.mem_classes_scope

theorem class?_scope (h : Assembled t header r classes f) (name : String) :
    f.scope.class? name =
      if name ∈ r.classes.map (·.name) then some (identifierFor name) else none := by
  rw [Scope.class?, h.contains_classes_scope]
  simp

theorem isAdmitted_scope (h : Assembled t header r classes f) :
    (·.isAdmitted f.scope.classes) = fun d : Descriptor =>
      d.isAdmitted (r.classes.map (·.name)) := by
  funext d
  simp only [Descriptor.isAdmitted, h.contains_classes_scope]

/-- A file is made from the descriptors that are declared. -/
theorem made_ofRecording (h : Assembled t header r classes f) :
    (Members.ofRecording f.scope r).made =
      (r.names, r.rendered.map (·.1.statement f.scope)) := by
  rw [Members.ofRecording_eq, Members.made_foldl_addDescriptor, h.isAdmitted_scope]
  rfl

theorem declared_ofRecording (h : Assembled t header r classes f) :
    (Members.ofRecording f.scope r).declared = r.names := congrArg Prod.fst h.made_ofRecording

/-- A file has a statement for every descriptor that is declared, in order. -/
theorem properties_eq (h : Assembled t header r classes f) :
    f.properties = r.rendered.map (·.1.statement f.scope) := by
  have properties : f.properties = (Members.ofRecording f.scope r).properties := by
    rw [h.scope_eq, h.file_eq]
    rfl
  exact properties.trans (congrArg Prod.snd h.made_ofRecording)

/-- A file gives members to unions by the qualified names that are declared. -/
theorem subsets_eq (h : Assembled t header r classes f) :
    f.subsets = r.unions.flatMap (subsetsOf f.scope r.names) := by
  have subsets : f.subsets =
      r.unions.flatMap (subsetsOf f.scope (Members.ofRecording f.scope r).declared) := by
    rw [h.scope_eq, h.file_eq]
    rfl
  rw [subsets, h.declared_ofRecording]

theorem operations_eq (h : Assembled t header r classes f) :
    f.operations = r.operations.filterMap (operationStatement? f.scope) := by
  rw [h.scope_eq, h.file_eq]
  rfl

end Assembled

end ModelCompiler.Source
