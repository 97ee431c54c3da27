import ModelCompiler.Proofs.Source.Descriptors

/-!
# Why descriptors are left out

A descriptor that is not declared is left out for one reason, the first that applies: an end whose
type is not recorded, an owner that is not recorded, a qualified name that is taken.  Main
statement: the omissions of a file begin with these reasons, in the order of the descriptors.
-/

namespace ModelCompiler.Source

/-- Why a property is left out, given which qualified names are taken. -/
def propertyOmission? (classes : List String) (isTaken : String → Bool) (className name : String) :
    Option Omission :=
  if !classes.contains className then some (.propertyOfNoClass className name)
  else if isTaken (className ++ "." ++ name) then some (.repeated (className ++ "." ++ name))
  else none

/-- Why an end is left out, given which qualified names are taken. -/
def endOmission? (classes : List String) (isTaken : String → Bool) (e : End) : Option Omission :=
  if !classes.contains e.typeName then some (.noType e.qualified e.typeName)
  else propertyOmission? classes isTaken e.className e.name

namespace Descriptor

/-- Why a descriptor is left out, given which qualified names are taken. -/
def omission? (classes : List String) (isTaken : String → Bool) : Descriptor → Option Omission
  | .attribute a => propertyOmission? classes isTaken a.className a.name
  | .association e _ | .redefinition e => endOmission? classes isTaken e
  | .derivedUnion u => endOmission? classes isTaken u.toEnd

/-- Whether one of some descriptors is admitted and has a qualified name. -/
def takes (classes : List String) (ds : List Descriptor) (qualified : String) : Bool :=
  ds.any fun d => d.isAdmitted classes && d.qualified == qualified

variable {classes : List String} {isTaken : String → Bool} {d : Descriptor}

/-- The type of an end is looked at first, and then the owner of any descriptor. -/
theorem omission?_eq (classes : List String) (isTaken : String → Bool) (d : Descriptor) :
    d.omission? classes isTaken =
      match d.end?.filter fun e => !classes.contains e.typeName with
      | some e => some (.noType e.qualified e.typeName)
      | none => propertyOmission? classes isTaken d.className d.name := by
  have ends (e : End) : endOmission? classes isTaken e =
      match (some e).filter fun e => !classes.contains e.typeName with
      | some e => some (.noType e.qualified e.typeName)
      | none => propertyOmission? classes isTaken e.className e.name := by
    rw [endOmission?, Option.filter_some]
    split <;> rfl
  obtain a | ⟨e, tail?⟩ | e | u := d
  · rfl
  · exact ends e
  · exact ends e
  · exact ends u.toEnd

/-- The type of an end is missing, or else the owner of the descriptor is, or it is admitted and
left out only if its qualified name is taken. -/
theorem omission?_cases (classes : List String) (isTaken : String → Bool) (d : Descriptor) :
    (∃ e, d.end? = some e ∧ e.typeName ∉ classes ∧
      d.omission? classes isTaken = some (.noType e.qualified e.typeName)) ∨
    ((∀ e, d.end? = some e → e.typeName ∈ classes) ∧ d.className ∉ classes ∧
      d.omission? classes isTaken = some (.propertyOfNoClass d.className d.name)) ∨
    (d.isAdmitted classes ∧ d.omission? classes isTaken =
      if isTaken d.qualified then some (.repeated d.qualified) else none) := by
  rw [omission?_eq]
  cases untyped : d.end?.filter fun e => !classes.contains e.typeName with
  | some e =>
    obtain ⟨he, missing⟩ := Option.filter_eq_some_iff.1 untyped
    exact .inl ⟨e, he, by simpa using missing, rfl⟩
  | none =>
    have typed : ∀ e, d.end? = some e → e.typeName ∈ classes := by
      simpa [Option.filter_eq_none_iff] using untyped
    refine .inr ?_
    dsimp only
    by_cases owned : d.className ∈ classes
    · refine .inr ⟨isAdmitted_iff.2 ⟨owned, typed⟩, ?_⟩
      rw [propertyOmission?, List.contains_iff_mem.2 owned, Bool.not_true,
        if_neg Bool.false_ne_true]
      rfl
    · refine .inl ⟨typed, owned, ?_⟩
      rw [propertyOmission?, if_pos (by simpa using owned)]

/-- An admitted descriptor is left out only if its qualified name is taken. -/
theorem omission?_of_isAdmitted (h : d.isAdmitted classes) :
    d.omission? classes isTaken =
      if isTaken d.qualified then some (.repeated d.qualified) else none := by
  obtain ⟨owned, typed⟩ := isAdmitted_iff.1 h
  rcases omission?_cases classes isTaken d with ⟨e, he, untyped, -⟩ | ⟨-, free, -⟩ | ⟨-, same⟩
  · exact absurd (typed e he) untyped
  · exact absurd owned free
  · exact same

end Descriptor

namespace Members

theorem omissions_add (s : Scope) (m : Members) (className : String)
    (term : PropertyTerm) (simple : Bool) :
    (m.add s className term simple).omissions = m.omissions ++
      (propertyOmission? s.classes m.declared.contains className term.name).toList := by
  by_cases hc : className ∈ s.classes
  · by_cases hq : className ++ "." ++ term.name ∈ m.declared
    · simp [add, Scope.class?, hc, hq, leaveOut, propertyOmission?]
    · simp [add, Scope.class?, hc, hq, propertyOmission?]
  · simp [add, Scope.class?, hc, leaveOut, propertyOmission?]

theorem omissions_addEnd (s : Scope) (m : Members) (e : End)
    {term : String → PropertyTerm} (hn : ∀ type, (term type).name = e.name) :
    (m.addEnd s e term).omissions = m.omissions ++
      (endOmission? s.classes m.declared.contains e).toList := by
  by_cases hc : e.typeName ∈ s.classes
  · have added := omissions_add s m e.className (term (identifierFor e.typeName)) false
    rw [hn] at added
    simpa [addEnd, Scope.class?, hc, endOmission?] using added
  · simp [addEnd, Scope.class?, hc, leaveOut, endOmission?]

theorem omissions_addDescriptor (s : Scope) (m : Members) (d : Descriptor) :
    (m.addDescriptor s d).omissions =
      m.omissions ++ (d.omission? s.classes m.declared.contains).toList := by
  obtain a | ⟨head, tail?⟩ | e | u := d
  · exact omissions_add s m a.className (attributeTerm s a) _
  · exact omissions_addEnd s m head fun _ => rfl
  · exact omissions_addEnd s m e fun _ => rfl
  · exact omissions_addEnd s m u.toEnd fun _ => rfl

/-- The names that are taken after some descriptors are those of the admitted ones. -/
theorem contains_declared_foldl_addDescriptor (s : Scope) (ds : List Descriptor) :
    (ds.foldl (addDescriptor s) {}).declared.contains = Descriptor.takes s.classes ds := by
  have declared : (ds.foldl (addDescriptor s) {}).declared =
      (firsts (·.isAdmitted s.classes) ds).map (·.1.qualified) :=
    congrArg Prod.fst (made_foldl_addDescriptor s ds)
  funext q
  rw [Bool.eq_iff_iff, List.contains_iff_mem, declared, mem_qualified_firsts]
  simp [Descriptor.takes]

/-- What is left out, and why, in the order of the descriptors. -/
theorem omissions_foldl_addDescriptor (s : Scope) (ds : List Descriptor) :
    (ds.foldl (addDescriptor s) {}).omissions = ds.zipIdx.filterMap fun x =>
      x.1.omission? s.classes (Descriptor.takes s.classes (ds.take x.2)) := by
  induction ds using List.reverseRecOn with
  | nil => rfl
  | append_singleton ds d ih =>
    have earlier : ds.zipIdx.filterMap (fun x =>
          x.1.omission? s.classes (Descriptor.takes s.classes ((ds ++ [d]).take x.2))) =
        ds.zipIdx.filterMap fun x =>
          x.1.omission? s.classes (Descriptor.takes s.classes (ds.take x.2)) :=
      List.filterMap_congr fun x hx => by rw [take_append_of_mem_zipIdx hx]
    rw [List.foldl_append, List.foldl_cons, List.foldl_nil, omissions_addDescriptor, ih,
      contains_declared_foldl_addDescriptor, List.zipIdx_append, List.filterMap_append, earlier]
    congr 1
    rw [Nat.zero_add, List.zipIdx_singleton, List.filterMap_cons, List.filterMap_nil,
      List.take_left]
    cases d.omission? s.classes (Descriptor.takes s.classes ds) <;> rfl

end Members

/-! ## What a file leaves out -/

namespace Recording

/-- Why a descriptor is left out of a file, given its place among the recorded ones. -/
def omission? (r : Recording) (x : Descriptor × Nat) : Option Omission :=
  x.1.omission? (r.classes.map (·.name))
    (Descriptor.takes (r.classes.map (·.name)) (r.descriptors.take x.2))

/-- An admitted descriptor is declared, or else it is left out as a repetition. -/
theorem omission?_of_isAdmitted {r : Recording} {x : Descriptor × Nat}
    (hx : x ∈ r.descriptors.zipIdx) (h : x.1.isAdmitted (r.classes.map (·.name))) :
    r.omission? x = if x ∈ r.rendered then none else some (.repeated x.1.qualified) := by
  have declared : x ∈ r.rendered ↔ Descriptor.takes (r.classes.map (·.name))
      (r.descriptors.take x.2) x.1.qualified = false := by
    rw [rendered, firsts, List.mem_filter, h, Bool.true_and, Bool.not_eq_true']
    exact and_iff_right hx
  rw [omission?, Descriptor.omission?_of_isAdmitted h]
  by_cases taken : Descriptor.takes (r.classes.map (·.name)) (r.descriptors.take x.2) x.1.qualified
  · rw [if_pos taken, if_neg (by rw [declared, taken]; exact Bool.noConfusion)]
  · rw [if_neg taken, if_pos (declared.2 (Bool.eq_false_iff.2 taken))]

/-- A descriptor is left out for its type, for its owner or as a repetition, or it is declared. -/
theorem omission?_cases (r : Recording) {x : Descriptor × Nat} (hx : x ∈ r.descriptors.zipIdx) :
    (∃ e, x.1.end? = some e ∧ e.typeName ∉ r.classes.map (·.name) ∧
      r.omission? x = some (.noType e.qualified e.typeName)) ∨
    ((∀ e, x.1.end? = some e → e.typeName ∈ r.classes.map (·.name)) ∧
      x.1.className ∉ r.classes.map (·.name) ∧
      r.omission? x = some (.propertyOfNoClass x.1.className x.1.name)) ∨
    (x.1.isAdmitted (r.classes.map (·.name)) ∧ x ∉ r.rendered ∧
      r.omission? x = some (.repeated x.1.qualified)) ∨
    (x ∈ r.rendered ∧ r.omission? x = none) := by
  rcases Descriptor.omission?_cases (r.classes.map (·.name))
    (Descriptor.takes (r.classes.map (·.name)) (r.descriptors.take x.2)) x.1 with
    noType | noOwner | ⟨admitted, -⟩
  · exact .inl noType
  · exact .inr (.inl noOwner)
  · have reason := omission?_of_isAdmitted hx admitted
    by_cases declared : x ∈ r.rendered
    · exact .inr (.inr (.inr ⟨declared, reason.trans (if_pos declared)⟩))
    · exact .inr (.inr (.inl ⟨admitted, declared, reason.trans (if_neg declared)⟩))

end Recording

/-- A declared union tells of each of its members that is not declared. -/
theorem mem_missingMembers {names : List String} {u : DerivedUnion} {o : Omission} :
    o ∈ missingMembers names u ↔ u.toEnd.qualified ∈ names ∧
      ∃ m ∈ u.members, m.qualified ∉ names ∧ o = .noMember m.qualified u.toEnd.qualified := by
  unfold missingMembers
  split
  · rename_i declared
    rw [List.mem_map, and_iff_right (List.contains_iff_mem.1 declared)]
    refine exists_congr fun m => ?_
    rw [List.mem_filter, and_assoc, Bool.not_eq_true', List.contains_eq_mem,
      decide_eq_false_iff_not, eq_comm]
  · rename_i undeclared
    refine iff_of_false List.not_mem_nil ?_
    rintro ⟨declared, -⟩
    exact undeclared (List.contains_iff_mem.2 declared)

theorem missingOperation?_eq_some {s : Scope} {o : ClassOperation} {w : Omission} :
    missingOperation? s o = some w ↔
      s.class? o.className = none ∧ w = .operationOfNoClass o.className o.name := by
  rw [missingOperation?, operationOf]
  cases s.class? o.className with
  | none => simp [eq_comm]
  | some owner => simp

namespace Assembled

variable {t : Target} {header : String} {r : Recording} {classes : List ClassDef} {f : File}

theorem omission?_scope (h : Assembled t header r classes f) (d : Descriptor)
    (isTaken : String → Bool) :
    d.omission? f.scope.classes isTaken = d.omission? (r.classes.map (·.name)) isTaken := by
  cases d <;>
    simp only [Descriptor.omission?, endOmission?, propertyOmission?, h.contains_classes_scope]

theorem takes_scope (h : Assembled t header r classes f) (ds : List Descriptor) :
    Descriptor.takes f.scope.classes ds = Descriptor.takes (r.classes.map (·.name)) ds := by
  funext q
  simp only [Descriptor.takes, Descriptor.isAdmitted, h.contains_classes_scope]

/-- A file tells of the descriptors that it leaves out, then of the members that unions lack, then
of the operations that it leaves out. -/
theorem omissions_eq (h : Assembled t header r classes f) :
    f.omissions = r.descriptors.zipIdx.filterMap r.omission? ++
      r.unions.flatMap (missingMembers r.names) ++
      r.operations.filterMap (missingOperation? f.scope) := by
  have own : (Members.ofRecording f.scope r).omissions =
      r.descriptors.zipIdx.filterMap r.omission? := by
    rw [Members.ofRecording_eq, Members.omissions_foldl_addDescriptor]
    refine List.filterMap_congr fun x _ => ?_
    rw [h.omission?_scope, h.takes_scope]
    rfl
  have parts : f.omissions = (Members.ofRecording f.scope r).omissions ++
      r.unions.flatMap (missingMembers (Members.ofRecording f.scope r).declared) ++
      r.operations.filterMap (missingOperation? f.scope) := by
    rw [h.scope_eq, h.file_eq]
    rfl
  rw [parts, own, h.declared_ofRecording]

/-- What a file leaves out is a descriptor, a member of a declared union or an operation. -/
theorem mem_omissions (h : Assembled t header r classes f) {o : Omission} : o ∈ f.omissions ↔
    (∃ x ∈ r.descriptors.zipIdx, r.omission? x = some o) ∨
    (∃ u ∈ r.unions, u.toEnd.qualified ∈ r.names ∧ ∃ m ∈ u.members, m.qualified ∉ r.names ∧
      o = .noMember m.qualified u.toEnd.qualified) ∨
    ∃ p ∈ r.operations, p.className ∉ r.classes.map (·.name) ∧
      o = .operationOfNoClass p.className p.name := by
  rw [h.omissions_eq, List.mem_append, List.mem_append, or_assoc, List.mem_filterMap,
    List.mem_flatMap, List.mem_filterMap]
  refine or_congr_right (or_congr ?_ ?_)
  · simp only [mem_missingMembers]
  · refine exists_congr fun p => and_congr_right fun _ => ?_
    rw [missingOperation?_eq_some, Scope.class?, ite_eq_right_iff, ← h.mem_classes_scope]
    simp

/-- No end is left out for its type if the types of all ends are recorded. -/
theorem noType_not_mem_omissions (h : Assembled t header r classes f)
    (typed : ∀ d ∈ r.descriptors, ∀ e, d.end? = some e → e.typeName ∈ r.classes.map (·.name))
    (qualified typeName : String) : .noType qualified typeName ∉ f.omissions := by
  intro hm
  rcases h.mem_omissions.1 hm with ⟨x, hx, hn⟩ | ⟨_, _, _, _, _, _, same⟩ | ⟨_, _, _, same⟩
  · rcases r.omission?_cases hx with
      ⟨e, he, untyped, -⟩ | ⟨-, -, same⟩ | ⟨-, -, same⟩ | ⟨-, same⟩
    · exact untyped (typed x.1 (List.fst_mem_of_mem_zipIdx hx) e he)
    all_goals
      rw [same] at hn
      cases hn
  · cases same
  · cases same

end Assembled

end ModelCompiler.Source
