import ModelCompiler.Plan.Resolve
import ModelCompiler.Proofs.Source.Omissions

/-!
# Repetitions

A class declares a name once.  A file tells properties apart by their qualified names, and two
properties of different classes may have the same one: names can hold any text, also the dot that
stands between owner and name.  Main statement: a descriptor is left out as a repetition if and only
if it is admitted and its qualified name has been declared before, and this is a matter of owner and
name if and only if no qualified name can be read in two ways.
-/

namespace ModelCompiler

namespace Source

/-! ## Qualified names -/

/-- A dot ends the owner, or it is part of a longer one. -/
theorem eq_or_longer_owner {owner name owner' name' : String} {rest : List Char}
    (ho : owner'.toList = owner.toList ++ rest)
    (hn : '.' :: name.toList = rest ++ '.' :: name'.toList) :
    (owner = owner' ∧ name = name') ∨
      ∃ part, owner' = owner ++ "." ++ part ∧ name = part ++ "." ++ name' := by
  rcases List.cons_eq_append_iff.1 hn with ⟨rfl, same⟩ | ⟨part, rfl, same⟩
  · rw [List.append_nil] at ho
    exact .inl ⟨(String.toList_inj.1 ho).symm, (String.toList_inj.1 (List.cons.inj same).2).symm⟩
  · refine .inr ⟨String.ofList part, String.toList_inj.1 ?_, String.toList_inj.1 ?_⟩
    · simpa using ho
    · simpa using same

/-- A qualified name has one reading, unless the part between two dots can go with the name or with
the owner. -/
theorem qualified_eq_iff (owner name owner' name' : String) :
    owner ++ "." ++ name = owner' ++ "." ++ name' ↔
      (owner = owner' ∧ name = name') ∨
      (∃ part, owner' = owner ++ "." ++ part ∧ name = part ++ "." ++ name') ∨
      ∃ part, owner = owner' ++ "." ++ part ∧ name' = part ++ "." ++ name := by
  constructor
  · intro h
    have chars : owner.toList ++ '.' :: name.toList = owner'.toList ++ '.' :: name'.toList := by
      simpa using congrArg String.toList h
    rcases List.append_eq_append_iff.1 chars with ⟨rest, ho, hn⟩ | ⟨rest, ho, hn⟩
    · exact (eq_or_longer_owner ho hn).imp_right .inl
    · rcases eq_or_longer_owner ho hn with ⟨rfl, rfl⟩ | longer
      · exact .inl ⟨rfl, rfl⟩
      · exact .inr (.inr longer)
  · rintro (⟨rfl, rfl⟩ | ⟨part, rfl, rfl⟩ | ⟨part, rfl, rfl⟩)
    · rfl
    · simp only [String.append_assoc]
    · simp only [String.append_assoc]

namespace Descriptor

/-- Both descriptors are for one name on one class. -/
def SameProperty (d e : Descriptor) : Prop := d.className = e.className ∧ d.name = e.name

/-- The first part of the name of one descriptor is, in the other, the last part of the owner. -/
def Misreads (d e : Descriptor) : Prop :=
  ∃ part, e.className = d.className ++ "." ++ part ∧ d.name = part ++ "." ++ e.name

theorem qualified_eq_qualified_iff {d e : Descriptor} :
    d.qualified = e.qualified ↔ d.SameProperty e ∨ d.Misreads e ∨ e.Misreads d :=
  qualified_eq_iff d.className d.name e.className e.name

theorem SameProperty.qualified_eq {d e : Descriptor} (h : d.SameProperty e) :
    d.qualified = e.qualified := qualified_eq_qualified_iff.2 (.inl h)

/-- The owner is longer in one of two readings. -/
theorem Misreads.not_sameProperty {d e : Descriptor} (h : d.Misreads e) : ¬d.SameProperty e := by
  rintro ⟨same, -⟩
  obtain ⟨part, longer, -⟩ := h
  have lengths := congrArg (fun s => s.toList.length) (same.trans longer)
  simp at lengths

end Descriptor

/-! ## What is left out as a repetition -/

namespace Recording

/-- A descriptor is left out as a repetition. -/
def Rejects (r : Recording) (x : Descriptor × Nat) : Prop :=
  ∃ q, r.omission? x = some (.repeated q)

/-- Two admitted descriptors have a qualified name that can be read in two ways. -/
def Ambiguous (r : Recording) : Prop :=
  ∃ d ∈ r.descriptors, ∃ e ∈ r.descriptors, d.isAdmitted (r.classes.map (·.name)) ∧
    e.isAdmitted (r.classes.map (·.name)) ∧ d.Misreads e

variable {r : Recording} {x : Descriptor × Nat}

/-- The longer of two owners has a dot in its name. -/
theorem not_ambiguous_of_no_dot (plain : ∀ c ∈ r.classes, '.' ∉ c.name.toList) : ¬r.Ambiguous := by
  rintro ⟨d, -, e, -, -, admitted, part, longer, -⟩
  obtain ⟨c, hc, same⟩ := List.mem_map.1 (Descriptor.isAdmitted_iff.1 admitted).1
  refine plain c hc ?_
  rw [same, longer]
  simp

/-- What is admitted is left out if an earlier descriptor of its qualified name is declared. -/
theorem rejects_iff (hx : x ∈ r.descriptors.zipIdx) :
    r.Rejects x ↔ x.1.isAdmitted (r.classes.map (·.name)) ∧
      ∃ y ∈ r.rendered, y.2 < x.2 ∧ y.1.qualified = x.1.qualified := by
  have declared : x ∈ r.rendered ↔ x.1.isAdmitted (r.classes.map (·.name)) ∧
      ∀ y ∈ r.rendered, y.2 < x.2 → y.1.qualified ≠ x.1.qualified :=
    mem_rendered_iff.trans (and_iff_right (List.mem_zipIdx_iff_getElem?.1 hx))
  constructor
  · rintro ⟨q, hq⟩
    rcases r.omission?_cases hx with
      ⟨e, -, -, other⟩ | ⟨-, -, other⟩ | ⟨admitted, left, -⟩ | ⟨-, other⟩
    · rw [other] at hq
      cases hq
    · rw [other] at hq
      cases hq
    · refine ⟨admitted, ?_⟩
      by_contra free
      refine left (declared.2 ⟨admitted, fun y hy lt same => free ⟨y, hy, lt, same⟩⟩)
    · rw [other] at hq
      cases hq
  · rintro ⟨admitted, y, hy, lt, same⟩
    refine ⟨x.1.qualified, (omission?_of_isAdmitted hx admitted).trans (if_neg fun hx => ?_)⟩
    exact (declared.1 hx).2 y hy lt same

/-- Every admitted descriptor that has the qualified name of a declared one is that one or is left
out. -/
theorem eq_or_rejects {y : Descriptor × Nat} (hx : x ∈ r.descriptors.zipIdx)
    (admitted : x.1.isAdmitted (r.classes.map (·.name))) (hy : y ∈ r.rendered)
    (same : y.1.qualified = x.1.qualified) : x = y ∨ r.Rejects x := by
  by_cases declared : x ∈ r.rendered
  · exact .inl (List.inj_on_of_nodup_map r.names_nodup declared hy same.symm)
  · exact .inr ⟨_, (omission?_of_isAdmitted hx admitted).trans (if_neg declared)⟩

/-- Repetitions are of one name on one class, each of them, if and only if no qualified name can be
read in two ways. -/
theorem rejects_sameProperty_iff :
    (∀ x ∈ r.descriptors.zipIdx, r.Rejects x ↔ x.1.isAdmitted (r.classes.map (·.name)) ∧
        ∃ y ∈ r.rendered, y.2 < x.2 ∧ y.1.SameProperty x.1) ↔ ¬r.Ambiguous := by
  constructor
  · rintro own ⟨d, hd, e, he, admittedD, admittedE, misread⟩
    have qualified : d.qualified = e.qualified :=
      Descriptor.qualified_eq_qualified_iff.2 (.inr (.inl misread))
    obtain ⟨y, hy, hq⟩ : ∃ y ∈ r.rendered, y.1.qualified = d.qualified :=
      List.mem_map.1 (mem_qualified_firsts.2 ⟨d, hd, admittedD, rfl⟩)
    -- the one that is declared is for the name and the class of both
    have declared (c : Descriptor) (hc : c ∈ r.descriptors)
        (admitted : c.isAdmitted (r.classes.map (·.name))) (same : y.1.qualified = c.qualified) :
        y.1.SameProperty c := by
      obtain ⟨i, hi⟩ := List.mem_iff_getElem?.1 hc
      have hx : (c, i) ∈ r.descriptors.zipIdx := List.mem_zipIdx_iff_getElem?.2 hi
      rcases eq_or_rejects hx admitted hy same with rfl | rejected
      · exact ⟨rfl, rfl⟩
      · obtain ⟨-, z, hz, -, sameZ⟩ := (own _ hx).1 rejected
        have one : z = y :=
          List.inj_on_of_nodup_map r.names_nodup hz hy (sameZ.qualified_eq.trans same.symm)
        exact one ▸ sameZ
    obtain ⟨classD, nameD⟩ := declared d hd admittedD hq
    obtain ⟨classE, nameE⟩ := declared e he admittedE (hq.trans qualified)
    exact misread.not_sameProperty ⟨classD.symm.trans classE, nameD.symm.trans nameE⟩
  · intro plain x hx
    rw [rejects_iff hx]
    refine and_congr_right fun admitted => exists_congr fun y => and_congr_right fun hy =>
      and_congr_right fun _ => ?_
    have hy' : y.1 ∈ r.descriptors := List.fst_mem_of_mem_zipIdx (List.mem_filter.1 hy).1
    have hx' : x.1 ∈ r.descriptors := List.fst_mem_of_mem_zipIdx hx
    have admittedY := isAdmitted_of_mem_rendered hy
    constructor
    · intro same
      rcases Descriptor.qualified_eq_qualified_iff.1 same with one | misread | misread
      · exact one
      · exact absurd ⟨_, hy', _, hx', admittedY, admitted, misread⟩ plain
      · exact absurd ⟨_, hx', _, hy', admitted, admittedY, misread⟩ plain
    · exact Descriptor.SameProperty.qualified_eq

end Recording

/-- A file tells of no repetitions but those of descriptors. -/
theorem Assembled.exists_omissions_eq {t : Target} {header : String} {r : Recording}
    {classes : List ClassDef} {f : File} (h : Assembled t header r classes f) :
    ∃ rest, f.omissions = r.descriptors.zipIdx.filterMap r.omission? ++ rest ∧
      ∀ q, .repeated q ∉ rest := by
  refine ⟨_, h.omissions_eq.trans (List.append_assoc _ _ _), fun q hq => ?_⟩
  rcases List.mem_append.1 hq with hq | hq
  · obtain ⟨u, -, hu⟩ := List.mem_flatMap.1 hq
    obtain ⟨-, m, -, -, same⟩ := mem_missingMembers.1 hu
    cases same
  · obtain ⟨o, -, ho⟩ := List.mem_filterMap.1 hq
    obtain ⟨-, same⟩ := missingOperation?_eq_some.1 ho
    cases same

/-- A file has statements for the descriptors that are declared and leaves out the others. A
descriptor is left out as a repetition if and only if owner and type are recorded and an earlier one
of its qualified name is declared. This one is for the same name on the same class, whatever
descriptor is left out, if and only if no two admitted descriptors have a qualified name that can be
read in two ways. -/
theorem repetitions_iff_qualified {t : Target} {header : String} {r : Recording} {f : File}
    (hf : assemble t header r = .ok f) :
    (∃ rest, f.omissions = r.descriptors.zipIdx.filterMap r.omission? ++ rest ∧
      ∀ q, .repeated q ∉ rest) ∧
    f.properties = r.rendered.map (·.1.statement f.scope) ∧
    (∀ x ∈ r.descriptors.zipIdx, r.Rejects x ↔ x.1.isAdmitted (r.classes.map (·.name)) ∧
      ∃ y ∈ r.rendered, y.2 < x.2 ∧ y.1.qualified = x.1.qualified) ∧
    ((∀ x ∈ r.descriptors.zipIdx, r.Rejects x ↔ x.1.isAdmitted (r.classes.map (·.name)) ∧
      ∃ y ∈ r.rendered, y.2 < x.2 ∧ y.1.SameProperty x.1) ↔ ¬r.Ambiguous) := by
  obtain ⟨classes, h⟩ := assembled_of_assemble hf
  exact ⟨h.exists_omissions_eq, h.properties_eq, fun x hx => Recording.rejects_iff hx,
    Recording.rejects_sameProperty_iff⟩

/-- Cars with two colors of their doors, and another class with a color. -/
def doors (other : String) : Graph where
  elements :=
    [⟨"car", "Class", [("name", .scalar "Car"), ("ownedAttribute", .refList ["left", "right"])]⟩,
     ⟨"left", "Property", [("name", .scalar "door.color")]⟩,
     ⟨"right", "Property", [("name", .scalar "door.color")]⟩,
     ⟨"other", "Class", [("name", .scalar other), ("ownedAttribute", .ref "color")]⟩,
     ⟨"color", "Property", [("name", .scalar "color")]⟩]
  ids_nodup := (by decide : ["car", "left", "right", "other", "color"].Nodup)
  ids_ne := by simp

/-- With a class whose name has no dot the second color of the doors is a repetition and all else is
declared. -/
theorem repetitions_iff_qualified_doors :
    ∃ f, (resolve (doors "Door") .none {}).fault? = none ∧
      let r := Recording.ofCalls (resolve (doors "Door") .none {}).plan.calls
      assemble {} "" r = .ok f ∧ f.omissions = [.repeated "Car.door.color"] ∧
      ∀ x ∈ r.descriptors.zipIdx, r.Rejects x ↔ x.1.isAdmitted (r.classes.map (·.name)) ∧
        ∃ y ∈ r.rendered, y.2 < x.2 ∧ y.1.SameProperty x.1 := by
  let r := Recording.ofCalls (resolve (doors "Door") .none {}).plan.calls
  have recorded : r.classes = [⟨⟨"car", "Car"⟩, []⟩, ⟨⟨"other", "Door"⟩, []⟩] := by decide +kernel
  have ordered : classOrder r.classes = .ok (List.range r.classes.length) := by
    rw [recorded]
    decide +kernel
  have structural : takeAll .structural (reservedBy {}) (r.classes.map (·.name)) =
      .ok (("Door", .structural "Door") :: ("Car", .structural "Car") :: reservedBy {}) := by
    rw [recorded]
    decide +kernel
  have hf := assemble_of_inOrder {} "" (by decide +kernel) ordered structural rfl
  obtain ⟨-, -, -, own⟩ := repetitions_iff_qualified hf
  have plain : ∀ c ∈ r.classes, '.' ∉ c.name.toList := by
    rw [recorded]
    decide
  exact ⟨_, by decide +kernel, hf, by decide +kernel,
    own.2 (Recording.not_ambiguous_of_no_dot plain)⟩

/-- The color of a class whose name is that of the cars and a part of a car is taken for a color of
cars. -/
theorem not_sameProperty_doors :
    (resolve (doors "Car.door") .none {}).fault? = none ∧
    let r := Recording.ofCalls (resolve (doors "Car.door") .none {}).plan.calls
    (r.descriptors.map fun d => (d.className, d.name)) =
      [("Car", "door.color"), ("Car", "door.color"), ("Car.door", "color")] ∧
    ∃ f, assemble {} "" r = .ok f ∧
      (f.properties.map fun s => (s.owner, s.term.name)) = [("Car", "door.color")] ∧
      f.omissions = [.repeated "Car.door.color", .repeated "Car.door.color"] ∧
      ¬∀ x ∈ r.descriptors.zipIdx, r.Rejects x ↔ x.1.isAdmitted (r.classes.map (·.name)) ∧
        ∃ y ∈ r.rendered, y.2 < x.2 ∧ y.1.SameProperty x.1 := by
  let r := Recording.ofCalls (resolve (doors "Car.door") .none {}).plan.calls
  have recorded : r.classes = [⟨⟨"car", "Car"⟩, []⟩, ⟨⟨"other", "Car.door"⟩, []⟩] := by
    decide +kernel
  have ordered : classOrder r.classes = .ok (List.range r.classes.length) := by
    rw [recorded]
    decide +kernel
  have structural : takeAll .structural (reservedBy {}) (r.classes.map (·.name)) =
      .ok (("Car_door", .structural "Car.door") :: ("Car", .structural "Car") ::
        reservedBy {}) := by
    rw [recorded]
    decide +kernel
  have hf := assemble_of_inOrder {} "" (by decide +kernel) ordered structural rfl
  have properties : (r.descriptors.map fun d => (d.className, d.name)) =
      [("Car", "door.color"), ("Car", "door.color"), ("Car.door", "color")] := by decide +kernel
  have admitted : ∀ d ∈ r.descriptors, d.isAdmitted (r.classes.map (·.name)) := by decide +kernel
  have ambiguous : r.Ambiguous := by
    have first : ("Car", "door.color") ∈ r.descriptors.map fun d => (d.className, d.name) := by
      simp [properties]
    have last : ("Car.door", "color") ∈ r.descriptors.map fun d => (d.className, d.name) := by
      simp [properties]
    obtain ⟨d, hd, ofCar⟩ := List.mem_map.1 first
    obtain ⟨e, he, ofDoor⟩ := List.mem_map.1 last
    obtain ⟨ownerD, nameD⟩ := Prod.ext_iff.1 ofCar
    obtain ⟨ownerE, nameE⟩ := Prod.ext_iff.1 ofDoor
    refine ⟨d, hd, e, he, admitted d hd, admitted e he, "door", ?_, ?_⟩
    · rw [show e.className = _ from ownerE, show d.className = _ from ownerD]
      rfl
    · rw [show d.name = _ from nameD, show e.name = _ from nameE]
      rfl
  exact ⟨by decide +kernel, properties, _, hf, by decide +kernel, by decide +kernel,
    mt Recording.rejects_sameProperty_iff.1 (not_not.2 ambiguous)⟩

end Source

end ModelCompiler
