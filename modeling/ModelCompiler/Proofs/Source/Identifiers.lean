import Mathlib.Data.List.Perm.Subperm
import ModelCompiler.Proofs.Source.Assembly

/-!
# Identifiers of their own

Every name has an identifier, which is a valid one and the name itself wherever that is possible.
Different names may have the same identifier, so a file takes the identifiers one after the other
and there is none if one of them is taken already.  Main statement: apart from a missing runtime and
classes that cannot be ordered, this is the only reason for which a recording has no file, and the
error names two things that share an identifier.
-/

namespace ModelCompiler.Source

/-! ## The identifier for a name -/

/-- A name with underscores for the characters that an identifier cannot hold. -/
def plainName (name : String) : String :=
  String.ofList (name.toList.map fun c => if isIdentChar c then c else '_')

theorem isIdentChar_underscore : isIdentChar '_' = true := rfl

theorem isIdentChar_of_identShape {cs : List Char} (h : identShape cs = true) :
    ∀ c ∈ cs, isIdentChar c = true := by
  cases cs with
  | nil => cases h
  | cons c cs =>
    rw [identShape, Bool.and_eq_true, List.all_eq_true] at h
    refine List.forall_mem_cons.2 ⟨?_, h.2⟩
    rw [isIdentChar, ← isIdentStart, h.1]
    rfl

/-- The characters of an identifier stay. -/
theorem plainName_of_isIdentifier {name : String} (h : isIdentifier name = true) :
    plainName name = name := by
  rw [isIdentifier, Bool.and_eq_true] at h
  have chars := isIdentChar_of_identShape h.1
  have same : (name.toList.map fun c => if isIdentChar c then c else '_') = name.toList := by
    rw [List.map_congr_left fun c hc => if_pos (chars c hc), List.map_id']
  rw [plainName, same, String.ofList_toList]

/-- The identifier for a name is the plain name, with one more underscore if that is none. -/
theorem identifierFor_cases (name : String) :
    (isIdentifier (plainName name) = true ∧ identifierFor name = plainName name) ∨
      (isIdentifier (plainName name) = false ∧ identifierFor name = "_" ++ plainName name) := by
  by_cases valid : isIdentifier name = true
  · rw [plainName_of_isIdentifier valid]
    exact .inl ⟨valid, if_pos valid⟩
  · have unfolded : identifierFor name =
        if isIdentifier (plainName name) then plainName name else "_" ++ plainName name :=
      if_neg valid
    cases plain : isIdentifier (plainName name) with
    | true => exact .inl ⟨rfl, by rw [unfolded, if_pos plain]⟩
    | false => exact .inr ⟨rfl, by rw [unfolded, if_neg (Bool.eq_false_iff.1 plain)]⟩

theorem isIdentChar_of_mem_plainName {name : String} {c : Char}
    (h : c ∈ (plainName name).toList) : isIdentChar c = true := by
  rw [plainName, String.toList_ofList] at h
  obtain ⟨d, -, rfl⟩ := List.mem_map.1 h
  split
  · assumption
  · exact isIdentChar_underscore

/-- No keyword begins with an underscore. -/
theorem underscore_append_not_mem_keywords (s : String) : "_" ++ s ∉ keywords := by
  have heads : ∀ w ∈ keywords, w.toList.head? ≠ some '_' := by decide
  intro h
  refine heads _ h ?_
  rw [String.toList_append]
  rfl

theorem isIdentifier_underscore_append {s : String} (h : ∀ c ∈ s.toList, isIdentChar c = true) :
    isIdentifier ("_" ++ s) = true := by
  have shape : identShape ("_" ++ s).toList = true := by
    have chars : ("_" ++ s).toList = '_' :: s.toList := by
      rw [String.toList_append]
      rfl
    rw [chars, identShape, Bool.and_eq_true, List.all_eq_true]
    exact ⟨rfl, h⟩
  have free : keywords.contains ("_" ++ s) = false := by
    rw [List.contains_eq_mem, decide_eq_false_iff_not]
    exact underscore_append_not_mem_keywords s
  rw [isIdentifier, shape, free]
  rfl

/-- The identifier for a name is an identifier. -/
theorem isIdentifier_identifierFor (name : String) : isIdentifier (identifierFor name) = true := by
  rcases identifierFor_cases name with ⟨valid, same⟩ | ⟨-, same⟩
  · rw [same, valid]
  · rw [same]
    exact isIdentifier_underscore_append fun _ => isIdentChar_of_mem_plainName

/-- A name that is an identifier is its own. -/
theorem identifierFor_of_isIdentifier {name : String} (h : isIdentifier name = true) :
    identifierFor name = name := if_pos h

/-! ## Files -/

/-- Identifiers are fresh if they are distinct and other than those that every file takes. -/
theorem fresh_iff (t : Target) (classes : List ClassDef) (enumerations : List Enumeration)
    {names : List String} (named : names = classes.map (·.name) ++ enumerations.map (·.name)) :
    Fresh (reservedBy t) ((declaredThings classes enumerations).map (·.entry t)) ↔
      (names.map identifierFor).Nodup ∧
        ∀ n ∈ names, identifierFor n ≠ qualifierOf t.runtime ∧ identifierFor n ≠ "init" := by
  subst named
  have idents := idents_declaredThings t classes enumerations
  have free : (∀ x ∈ (declaredThings classes enumerations).map (·.entry t),
      x.1 ∉ (reservedBy t).map (·.1)) ↔
        ∀ n ∈ classes.map (·.name) ++ enumerations.map (·.name),
          identifierFor n ≠ qualifierOf t.runtime ∧ identifierFor n ≠ "init" := by
    rw [← List.forall_mem_map (P := (· ∉ (reservedBy t).map (·.1))), idents, List.forall_mem_map]
    simp [reservedBy, and_comm]
  constructor
  · rintro ⟨nodup, unused⟩
    exact ⟨idents ▸ nodup, free.1 unused⟩
  · rintro ⟨nodup, unused⟩
    exact ⟨idents.symm ▸ nodup, free.2 unused⟩

/-- There is a file for a recording if and only if there is a runtime, the classes can be ordered
and the identifiers for the names of all classes and enumerations are distinct and none of those
that every file takes. With an order but no file, the error names two things that share an
identifier. A file declares every class and enumeration under the identifier for its name, and this
identifier is valid and the name itself where the name is one. -/
theorem assemble_eq_ok_iff (t : Target) (header : String) (r : Recording) :
    let names := r.classes.map (·.name) ++ r.enumerations.map (·.name)
    ((∃ f, assemble t header r = .ok f) ↔
      t.runtime ≠ "" ∧ (∃ order, classOrder r.classes = .ok order) ∧
        (names.map identifierFor).Nodup ∧
        ∀ n ∈ names, identifierFor n ≠ qualifierOf t.runtime ∧ identifierFor n ≠ "init") ∧
    (∀ e, assemble t header r = .error e → t.runtime ≠ "" →
      (∃ order, classOrder r.classes = .ok order) →
        ∃ earlier later ident, e = .clash later earlier ident ∧
          [earlier, later].Subperm
            (.runtime :: .initFunction :: declaredThings r.classes r.enumerations) ∧
          earlier.ident t = ident ∧ later.ident t = ident) ∧
    (∀ f, assemble t header r = .ok f →
      (f.classes.map fun d => (d.name, d.ident)).Perm
        (r.classes.map fun c => (c.name, identifierFor c.name)) ∧
      (f.enumerations.map fun d => (d.name, d.ident)) =
        r.enumerations.map fun e => (e.name, identifierFor e.name)) ∧
    ∀ name, isIdentifier (identifierFor name) = true ∧
      (isIdentifier name = true → identifierFor name = name) := by
  intro names
  refine ⟨?_, ?_, ?_, fun name => ⟨isIdentifier_identifierFor name, identifierFor_of_isIdentifier⟩⟩
  · rcases assemble_cases t header r with
      ⟨missing, failed⟩ | ⟨-, e, disordered, failed⟩ | ⟨runtime, order, ordered, outcome⟩
    · simp [failed, missing]
    · simp [failed, disordered]
    · have perm := (perm_declaredThings (perm_of_classOrder ordered) r.enumerations).map (·.entry t)
      dsimp only at outcome
      rw [fresh_perm perm, fresh_iff t _ _ rfl] at outcome
      rcases outcome with ⟨fresh, done⟩ | ⟨stale, _, _, _, failed, -⟩
      · exact ⟨fun _ => ⟨runtime, ⟨order, ordered⟩, fresh⟩, fun _ => ⟨_, done⟩⟩
      · constructor
        · rintro ⟨f, hf⟩
          rw [failed] at hf
          cases hf
        · rintro ⟨-, -, fresh⟩
          exact absurd fresh stale
  · rintro e he runtime ⟨order, ordered⟩
    rcases assemble_cases t header r with
      ⟨missing, -⟩ | ⟨-, e', disordered, -⟩ | ⟨-, order', ordered', outcome⟩
    · exact absurd missing runtime
    · rw [ordered] at disordered
      cases disordered
    · rcases outcome with ⟨-, done⟩ | ⟨-, earlier, later, ident, failed, pair, shared⟩
      · rw [done] at he
        cases he
      · rw [failed] at he
        cases he
        have perm := perm_declaredThings (perm_of_classOrder ordered') r.enumerations
        exact ⟨earlier, later, ident, rfl, pair.subperm.trans ((perm.cons _).cons _).subperm,
          shared⟩
  · intro f hf
    obtain ⟨classes, h⟩ := assembled_of_assemble hf
    constructor
    · rw [h.classes_eq, List.map_map]
      exact h.perm.map _
    · rw [h.enumerations_eq, List.map_map]
      rfl

/-- Two classes and an enumeration, whose name is given. -/
def shapes (kind : String) : Recording where
  classes := [⟨⟨"shape", "Shape Kind"⟩, []⟩, ⟨⟨"cube", "3D"⟩, [⟨"shape", "Shape Kind"⟩]⟩]
  enumerations := [{ id := "kind", name := kind }]

theorem assemble_eq_ok_iff_shapes :
    (∃ f, assemble {} "" (shapes "type") = .ok f ∧
      (f.classes.map fun d => (d.name, d.ident)).Perm
        [("Shape Kind", "Shape_Kind"), ("3D", "_3D")] ∧
      (f.enumerations.map fun d => (d.name, d.ident)) = [("type", "_type")]) ∧
    ∃ earlier later ident,
      assemble {} "" (shapes "Shape_Kind") = .error (.clash later earlier ident) ∧
      earlier.ident {} = ident ∧ later.ident {} = ident := by
  have ordered (kind : String) : ∃ order, classOrder (shapes kind).classes = .ok order := by
    have known : classOrder (shapes "").classes = .ok [0, 1] := by decide +kernel
    exact ⟨[0, 1], known⟩
  constructor
  · obtain ⟨success, -, declares, -⟩ := assemble_eq_ok_iff {} "" (shapes "type")
    obtain ⟨f, hf⟩ := success.2 ⟨by decide, ordered "type", by decide +kernel, by decide +kernel⟩
    obtain ⟨classes, enumerations⟩ := declares f hf
    refine ⟨f, hf, ?_, enumerations.trans (by decide +kernel)⟩
    have idents : ((shapes "type").classes.map fun c => (c.name, identifierFor c.name)) =
        [("Shape Kind", "Shape_Kind"), ("3D", "_3D")] := by decide +kernel
    exact idents ▸ classes
  · obtain ⟨success, clashes, -, -⟩ := assemble_eq_ok_iff {} "" (shapes "Shape_Kind")
    cases he : assemble {} "" (shapes "Shape_Kind") with
    | ok f =>
      obtain ⟨-, -, distinct, -⟩ := success.1 ⟨f, he⟩
      exact absurd distinct (by decide +kernel)
    | error e =>
      obtain ⟨earlier, later, ident, rfl, -, shared⟩ :=
        clashes e he (by decide) (ordered "Shape_Kind")
      exact ⟨earlier, later, ident, rfl, shared⟩

end ModelCompiler.Source
