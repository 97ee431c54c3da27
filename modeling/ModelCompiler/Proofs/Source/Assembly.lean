import ModelCompiler.Proofs.Source.Order

/-!
# Files that have been assembled

A file is assembled from classes that are in order and from names that have identifiers of their
own, which are taken one after the other.  `assemble_cases` says once what becomes of a recording
and `assembled_of_assemble` what success gives; the rest of the module reads off it what the
identifiers of a file stand for.
-/

namespace ModelCompiler.Source

/-! ## Import paths -/

/-- The name under which a package is called is empty only without an import path. -/
theorem qualifierOf_eq_empty_iff (path : String) : qualifierOf path = "" ↔ path = "" := by
  constructor
  · intro h
    by_contra given
    rw [qualifierOf, if_neg given] at h
    cases left : path.toList.reverse.dropWhile (· == '/') with
    | nil =>
      rw [left] at h
      exact absurd h (by decide)
    | cons c cs =>
      -- what is left begins with a character that is no slash
      have head := List.head?_dropWhile_not (· == '/') path.toList.reverse
      rw [left, List.head?_cons] at head
      have kept : (c != '/') = true := by simpa using head
      rw [left] at h
      simp only [List.takeWhile_cons, kept, if_true] at h
      simpa using congrArg String.toList h
  · rintro rfl
    rfl

/-! ## Taking identifiers -/

/-- The identifier that a thing takes in a file for a target. -/
def Named.ident (t : Target) : Named → String
  | .runtime => qualifierOf t.runtime
  | .initFunction => "init"
  | .structural name | .enumeration name => identifierFor name

/-- A thing with its identifier. -/
def Named.entry (t : Target) (n : Named) : String × Named := (n.ident t, n)

/-- Takes the identifiers of several things, one after the other. -/
def reserveAll (taken entries : Taken) : Except AssemblyError Taken :=
  entries.foldlM (fun taken x => reserve taken x.1 x.2) taken

/-- Identifiers that are distinct, and none of which is taken. -/
structure Fresh (taken entries : Taken) : Prop where
  nodup : (entries.map (·.1)).Nodup
  free : ∀ x ∈ entries, x.1 ∉ taken.map (·.1)

theorem reserveAll_cons (taken : Taken) (x : String × Named) (entries : Taken) :
    reserveAll taken (x :: entries) =
      (reserve taken x.1 x.2 >>= fun taken => reserveAll taken entries) := List.foldlM_cons

theorem reserveAll_append (taken entries entries' : Taken) :
    reserveAll taken (entries ++ entries') =
      (reserveAll taken entries >>= fun taken => reserveAll taken entries') := List.foldlM_append

theorem fresh_cons_iff {taken entries : Taken} {x : String × Named}
    (hx : x.1 ∉ taken.map (·.1)) : Fresh taken (x :: entries) ↔ Fresh (x :: taken) entries := by
  constructor
  · rintro ⟨nodup, free⟩
    rw [List.map_cons, List.nodup_cons] at nodup
    refine ⟨nodup.2, fun y hy taken => ?_⟩
    rcases List.mem_cons.1 taken with same | taken
    · exact nodup.1 (List.mem_map.2 ⟨y, hy, same⟩)
    · exact free y (List.mem_cons_of_mem x hy) taken
  · rintro ⟨nodup, free⟩
    refine ⟨?_, List.forall_mem_cons.2 ⟨hx, fun y hy taken => ?_⟩⟩
    · rw [List.map_cons, List.nodup_cons]
      refine ⟨fun again => ?_, nodup⟩
      obtain ⟨y, hy, same⟩ := List.mem_map.1 again
      exact free y hy (same ▸ List.mem_cons_self)
    · exact free y hy (List.mem_cons_of_mem _ taken)

theorem fresh_perm {taken entries entries' : Taken} (h : entries.Perm entries') :
    Fresh taken entries ↔ Fresh taken entries' := by
  constructor
  · rintro ⟨nodup, free⟩
    exact ⟨(h.map _).nodup_iff.1 nodup, fun x hx => free x (h.mem_iff.2 hx)⟩
  · rintro ⟨nodup, free⟩
    exact ⟨(h.map _).nodup_iff.2 nodup, fun x hx => free x (h.mem_iff.1 hx)⟩

/-- Identifiers that are fresh are taken, and otherwise two things share one. -/
theorem reserveAll_cases (taken entries : Taken) :
    (Fresh taken entries ∧ reserveAll taken entries = .ok (entries.reverse ++ taken)) ∨
    (¬Fresh taken entries ∧ ∃ ident later earlier,
      [(ident, later), (ident, earlier)].Sublist (entries.reverse ++ taken) ∧
      reserveAll taken entries = .error (.clash later earlier ident)) := by
  induction entries generalizing taken with
  | nil => exact .inl ⟨⟨List.nodup_nil, by simp⟩, rfl⟩
  | cons x entries ih =>
    rw [reserveAll_cons, List.reverse_cons]
    cases hl : taken.lookup x.1 with
    | some earlier =>
      have known : (x.1, earlier) ∈ taken := by
        obtain ⟨before, after, split, -⟩ := List.lookup_eq_some_iff.1 hl
        simp [split]
      refine .inr ⟨fun fresh => ?_, x.1, x.2, earlier, ?_, ?_⟩
      · exact fresh.free x List.mem_cons_self (List.mem_map.2 ⟨_, known, rfl⟩)
      · have one : [x].Sublist (entries.reverse ++ [x]) := List.sublist_append_right _ _
        exact one.append (List.singleton_sublist.2 known)
      · rw [reserve, hl]
        rfl
    | none =>
      have free : x.1 ∉ taken.map (·.1) := by
        intro known
        obtain ⟨y, hy, same⟩ := List.mem_map.1 known
        exact absurd same.symm (by simpa using List.lookup_eq_none_iff.1 hl y hy)
      have reserved : reserve taken x.1 x.2 = .ok (x :: taken) := by rw [reserve, hl]
      have order : entries.reverse ++ [x] ++ taken = entries.reverse ++ x :: taken := by simp
      rw [reserved, order, fresh_cons_iff free]
      exact ih (x :: taken)

/-- Taking the identifiers of names is taking those of the things that they name. -/
theorem takeAll_eq_reserveAll {t : Target} {kind : String → Named}
    (hk : ∀ n, (kind n).ident t = identifierFor n) (taken : Taken) (names : List String) :
    takeAll kind taken names = reserveAll taken (names.map fun n => (kind n).entry t) := by
  induction names generalizing taken with
  | nil => rfl
  | cons name names ih =>
    rw [takeAll, List.map_cons, reserveAll_cons, Named.entry, hk]
    exact bind_congr ih

/-! ## What becomes of a recording -/

/-- The identifiers that are taken in every file. -/
def reservedBy (t : Target) : Taken := [("init", .initFunction), (qualifierOf t.runtime, .runtime)]

/-- What classes and enumerations declare. -/
def declaredThings (classes : List ClassDef) (enumerations : List Enumeration) : List Named :=
  classes.map (fun c => .structural c.name) ++ enumerations.map fun e => .enumeration e.name

section DeclaredThings

variable {classes : List ClassDef} {enumerations : List Enumeration} {name : String}

theorem structural_mem_declaredThings :
    .structural name ∈ declaredThings classes enumerations ↔ name ∈ classes.map (·.name) := by
  simp [declaredThings]

theorem enumeration_mem_declaredThings :
    .enumeration name ∈ declaredThings classes enumerations ↔
      name ∈ enumerations.map (·.name) := by
  simp [declaredThings]

end DeclaredThings

theorem perm_declaredThings {classes classes' : List ClassDef} (h : classes.Perm classes')
    (enumerations : List Enumeration) :
    (declaredThings classes enumerations).Perm (declaredThings classes' enumerations) :=
  (h.map _).append_right _

theorem idents_declaredThings (t : Target) (classes : List ClassDef)
    (enumerations : List Enumeration) :
    ((declaredThings classes enumerations).map (·.entry t)).map (·.1) =
      (classes.map (·.name) ++ enumerations.map (·.name)).map identifierFor := by
  simp [declaredThings, Named.entry, Named.ident, Function.comp_def]

/-- Taking the identifiers of classes and of enumerations is one run. -/
theorem takeAll_takeAll_eq (t : Target) (taken : Taken) (classes : List ClassDef)
    (enumerations : List Enumeration) :
    (takeAll .structural taken (classes.map (·.name)) >>= fun taken =>
      takeAll .enumeration taken (enumerations.map (·.name))) =
        reserveAll taken ((declaredThings classes enumerations).map (·.entry t)) := by
  have structural (n : String) : (Named.structural n).ident t = identifierFor n := rfl
  have enumeration (n : String) : (Named.enumeration n).ident t = identifierFor n := rfl
  rw [declaredThings, List.map_append, reserveAll_append]
  simp only [takeAll_eq_reserveAll structural, takeAll_eq_reserveAll enumeration, List.map_map,
    Function.comp_def]

/-- Whether there is a file for classes in order is a matter of taking identifiers. -/
theorem assemble_eq {t : Target} {r : Recording} {order : List Nat} (header : String)
    (runtime : t.runtime ≠ "") (ordered : classOrder r.classes = .ok order) :
    let classes := order.filterMap fun i => r.classes[i]?
    assemble t header r =
      (reserveAll (reservedBy t) ((declaredThings classes r.enumerations).map (·.entry t)) >>=
        fun _ => pure (assembled t header r classes)) := by
  intro classes
  have called : qualifierOf t.runtime ≠ "" := mt (qualifierOf_eq_empty_iff _).1 runtime
  rw [← takeAll_takeAll_eq, bind_assoc, assemble, if_neg called, ordered]
  rfl

/-- Two things that share an identifier in the order in which identifiers are taken. -/
theorem sublist_of_sublist_taken {things : List Named} {t : Target} {ident : String}
    {later earlier : Named}
    (h : [(ident, later), (ident, earlier)].Sublist
      ((things.map (·.entry t)).reverse ++ reservedBy t)) :
    [earlier, later].Sublist (.runtime :: .initFunction :: things) ∧
      earlier.ident t = ident ∧ later.ident t = ident := by
  have taken : (things.map (·.entry t)).reverse ++ reservedBy t =
      (Named.runtime :: .initFunction :: things).reverse.map (·.entry t) := by
    simp [reservedBy, Named.entry, Named.ident]
  rw [taken, List.sublist_map_iff] at h
  obtain ⟨pair, sublist, same⟩ := h
  obtain ⟨l, e, rfl⟩ : ∃ l e, pair = [l, e] := by
    rw [← List.length_eq_two]
    simpa using (congrArg List.length same).symm
  simp only [List.map_cons, List.map_nil, List.cons.injEq, Named.entry, Prod.mk.injEq,
    and_true] at same
  obtain ⟨⟨hl, rfl⟩, he, rfl⟩ := same
  exact ⟨List.reverse_sublist.1 (by simpa using sublist), he.symm, hl.symm⟩

/-- What becomes of a recording: nothing without a runtime or without an order of its classes, a
file if all identifiers are fresh, and otherwise a clash of two things. -/
theorem assemble_cases (t : Target) (header : String) (r : Recording) :
    (t.runtime = "" ∧ assemble t header r = .error .noRuntime) ∨
    (t.runtime ≠ "" ∧ ∃ e, classOrder r.classes = .error e ∧ assemble t header r = .error e) ∨
    (t.runtime ≠ "" ∧ ∃ order, classOrder r.classes = .ok order ∧
      let classes := order.filterMap fun i => r.classes[i]?
      let things := declaredThings classes r.enumerations
      (Fresh (reservedBy t) (things.map (·.entry t)) ∧
        assemble t header r = .ok (assembled t header r classes)) ∨
      (¬Fresh (reservedBy t) (things.map (·.entry t)) ∧ ∃ earlier later ident,
        assemble t header r = .error (.clash later earlier ident) ∧
        [earlier, later].Sublist (.runtime :: .initFunction :: things) ∧
        earlier.ident t = ident ∧ later.ident t = ident)) := by
  by_cases runtime : t.runtime = ""
  · refine .inl ⟨runtime, ?_⟩
    rw [assemble, if_pos ((qualifierOf_eq_empty_iff _).2 runtime)]
    rfl
  refine .inr ?_
  cases ordered : classOrder r.classes with
  | error e =>
    refine .inl ⟨runtime, e, rfl, ?_⟩
    rw [assemble, if_neg (mt (qualifierOf_eq_empty_iff _).1 runtime), ordered]
    rfl
  | ok order =>
    refine .inr ⟨runtime, order, rfl, ?_⟩
    intro classes things
    rw [assemble_eq header runtime ordered]
    rcases reserveAll_cases (reservedBy t) (things.map (·.entry t)) with
      ⟨fresh, reserved⟩ | ⟨stale, ident, later, earlier, pair, clash⟩
    · refine .inl ⟨fresh, ?_⟩
      rw [reserved]
      rfl
    · refine .inr ⟨stale, earlier, later, ident, ?_, sublist_of_sublist_taken pair⟩
      rw [clash]
      rfl

/-! ## Files -/

/-- What a file is made from: the recorded classes in an order that follows their supertypes, and
names with identifiers of their own, none of which is the name of the schema library. -/
structure Assembled (t : Target) (header : String) (r : Recording) (classes : List ClassDef)
    (f : File) : Prop where
  ordered : ∃ order, classOrder r.classes = .ok order ∧
    classes = order.filterMap fun i => r.classes[i]?
  identifiers : ((classes.map (·.name) ++ r.enumerations.map (·.name)).map identifierFor).Nodup
  unqualified : qualifierOf t.runtime ∉
    (classes.map (·.name) ++ r.enumerations.map (·.name)).map identifierFor
  file_eq : f = assembled t header r classes

theorem assembled_of_assemble {t : Target} {header : String} {r : Recording} {f : File}
    (h : assemble t header r = .ok f) : ∃ classes, Assembled t header r classes f := by
  rcases assemble_cases t header r with
    ⟨-, failed⟩ | ⟨-, e, -, failed⟩ | ⟨-, order, ordered, outcome⟩
  · rw [failed] at h
    cases h
  · rw [failed] at h
    cases h
  · rcases outcome with ⟨fresh, done⟩ | ⟨-, _, _, _, failed, -⟩
    · rw [done] at h
      cases h
      refine ⟨_, ⟨order, ordered, rfl⟩, ?_, ?_, rfl⟩
      · rw [← idents_declaredThings t]
        exact fresh.nodup
      · rw [← idents_declaredThings t]
        intro clash
        obtain ⟨x, hx, same⟩ := List.mem_map.1 clash
        exact fresh.free x hx (by simp [reservedBy, same])
    · rw [failed] at h
      cases h

/-- A file is assembled when there is a runtime, the classes can be ordered and no identifier is
taken twice. -/
theorem assemble_of_takeAll (t : Target) (header : String) {r : Recording} {order : List Nat}
    {taken taken' : Taken} (runtime : qualifierOf t.runtime ≠ "")
    (ordered : classOrder r.classes = .ok order)
    (structural : takeAll .structural (reservedBy t)
      ((order.filterMap fun i => r.classes[i]?).map (·.name)) = .ok taken)
    (enumerations : takeAll .enumeration taken (r.enumerations.map (·.name)) = .ok taken') :
    assemble t header r =
      .ok (assembled t header r (order.filterMap fun i => r.classes[i]?)) := by
  rw [reservedBy] at structural
  simp only [assemble, runtime, if_false, bind, Except.bind, pure, Except.pure, ordered,
    structural, enumerations]

/-- Classes that are recorded in order stay in their places. -/
theorem assemble_of_inOrder (t : Target) (header : String) {r : Recording} {taken taken' : Taken}
    (runtime : qualifierOf t.runtime ≠ "")
    (ordered : classOrder r.classes = .ok (List.range r.classes.length))
    (structural : takeAll .structural (reservedBy t) (r.classes.map (·.name)) = .ok taken)
    (enumerations : takeAll .enumeration taken (r.enumerations.map (·.name)) = .ok taken') :
    assemble t header r = .ok (assembled t header r r.classes) := by
  rw [← filterMap_getElem?_range r.classes] at structural
  have assembles := assemble_of_takeAll t header runtime ordered structural enumerations
  rwa [filterMap_getElem?_range] at assembles

/-- The names of what a file declares. -/
def File.scope (f : File) : Scope where
  classes := f.classes.map (·.name)
  enumerations := f.enumerations.map (·.name)

namespace Assembled

variable {t : Target} {header : String} {r : Recording} {classes : List ClassDef} {f : File}

theorem perm (h : Assembled t header r classes f) : classes.Perm r.classes := by
  obtain ⟨order, ho, rfl⟩ := h.ordered
  exact perm_of_classOrder ho

theorem scope_eq (h : Assembled t header r classes f) :
    f.scope =
      { classes := classes.map (·.name), enumerations := r.enumerations.map (·.name) } := by
  rw [h.file_eq]
  simp [assembled, File.scope, classDecl, enumerationDecl, Function.comp_def]

theorem classes_eq (h : Assembled t header r classes f) :
    f.classes = classes.map (classDecl f.scope) := by
  rw [h.scope_eq, h.file_eq]
  rfl

theorem enumerations_eq (h : Assembled t header r classes f) :
    f.enumerations = r.enumerations.map enumerationDecl := by
  rw [h.file_eq]
  rfl

theorem idents_nodup (h : Assembled t header r classes f) :
    (classes.map fun c => identifierFor c.name).Nodup := by
  have both := h.identifiers
  rw [List.map_append, List.map_map] at both
  exact (List.nodup_append.1 both).1

theorem enumeration_idents_nodup (h : Assembled t header r classes f) :
    (r.enumerations.map fun e => identifierFor e.name).Nodup := by
  have both := h.identifiers
  rw [List.map_append, List.map_map, List.map_map] at both
  exact (List.nodup_append.1 both).2.1

/-- Two classes of a file are told apart by their identifiers, hence by their names. -/
theorem eq_of_identifier_eq (h : Assembled t header r classes f) {c d : ClassDef}
    (hc : c ∈ classes) (hd : d ∈ classes) (he : identifierFor c.name = identifierFor d.name) :
    c = d := List.inj_on_of_nodup_map h.idents_nodup hc hd he

theorem class?_scope_eq_some (h : Assembled t header r classes f) {name x : String} :
    f.scope.class? name = some x ↔ (∃ c ∈ classes, c.name = name) ∧ identifierFor name = x := by
  simp [Scope.class?, h.scope_eq]

end Assembled

end ModelCompiler.Source
