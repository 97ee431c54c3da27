import ModelCompiler.Override.Document
import ModelCompiler.Proofs.Yaml.Values

/-!
# Which overrides have an effect

The names in an override file are checked without the blanks around them, and properties are looked
up among the derived ones without these blanks.  Attributes are looked up under the names as they
are written.  Main statement: whatever reads the file, as long as it reads distinct names of
attributes, every override of an accepted file has an effect if and only if every name of an
attribute is one of these names even without its blanks.  The reader of YAML reads distinct names.
-/

set_option mvcgen.warning false

namespace ModelCompiler.Overrides

open Std.Do

/-- The names of the attributes that are overridden, as they are written. -/
def keys (f : Overrides) : List String := f.attributes.map Prod.fst

/-- Every override has an effect on the property of its name without the blanks around it, and no
other property is declared derived. -/
structure Heeded (f : Overrides) : Prop where
  derived : ∀ n ∈ f.derived, f.derives (Text.trimmed n) = true
  attributes : ∀ k ∈ f.keys, (f.attribute? (Text.trimmed k)).isSome = true
  nothingElse : ∀ n, f.derives n = true → ∃ m ∈ f.derived, Text.trimmed m = n

/-! ## Looking up -/

section

variable {f : Overrides} {n k : String} {o : AttributeOverride}

@[simp] theorem keys_withDefaults : f.withDefaults.keys = f.keys := rfl

theorem derives_iff : f.derives n = true ↔ ∃ m ∈ f.derived, Text.trimmed m = n := by
  rw [derives, List.contains_iff_mem, List.mem_map]

theorem isSome_attribute?_iff : (f.attribute? n).isSome = true ↔ n ∈ f.keys := by
  rw [attribute?, List.lookup_isSome_iff, keys, List.mem_map]
  exact exists_congr fun p => and_congr_right fun _ => beq_iff_eq.trans eq_comm

theorem attribute?_of_mem (distinct : f.keys.Nodup) (h : (k, o) ∈ f.attributes) :
    f.attribute? k = some o := by
  obtain ⟨before, after, parts⟩ := List.append_of_mem h
  refine List.lookup_eq_some_iff.2 ⟨before, after, parts, fun p hp => ?_⟩
  rw [keys, parts, List.map_append, List.map_cons] at distinct
  have other : p.1 ≠ k :=
    List.nodup_append.1 distinct |>.2.2 p.1 (List.mem_map_of_mem hp) k List.mem_cons_self
  exact bne_iff_ne.2 other.symm

/-- The derived properties are those of the list, and the attributes are looked up as written. -/
theorem heeded_iff : f.Heeded ↔ ∀ k ∈ f.keys, Text.trimmed k ∈ f.keys := by
  constructor
  · intro h k hk
    exact isSome_attribute?_iff.1 (h.attributes k hk)
  · intro h
    exact {
      derived := fun n hn => derives_iff.2 ⟨n, hn, rfl⟩
      attributes := fun k hk => isSome_attribute?_iff.2 (h k hk)
      nothingElse := fun n => derives_iff.1 }

end

/-! ## Reading -/

theorem map_fst_put (name : String) (o : AttributeOverride)
    (os : List (String × AttributeOverride)) :
    (put name o os).map Prod.fst =
      if name ∈ os.map Prod.fst then os.map Prod.fst else os.map Prod.fst ++ [name] := by
  induction os with
  | nil => rfl
  | cons p os ih =>
    obtain ⟨n, q⟩ := p
    by_cases h : n = name
    · simp [put, h]
    · have other : name ≠ n := Ne.symm h
      simp only [put, if_neg h, List.map_cons, ih, List.mem_cons, other, false_or]
      split <;> rfl

theorem nodup_put {os : List (String × AttributeOverride)} (h : (os.map Prod.fst).Nodup)
    (name : String) (o : AttributeOverride) : ((put name o os).map Prod.fst).Nodup := by
  rw [map_fst_put]
  split
  · exact h
  · rename_i fresh
    exact List.nodup_append_comm.1 (List.nodup_cons.2 ⟨fresh, h⟩)

theorem keeps_table : table.Keeps fun os => (os.map Prod.fst).Nodup := by
  intro merged os name n h
  have read := Yaml.triple_true (AttributeOverride.ofNode n)
  have put := nodup_put h name
  mvcgen [table, read]
  · exact put _
  · split
    · exact h
    · exact put _

theorem keeps_record : record.Keeps fun f => f.keys.Nodup := by
  intro merged f name n h
  have text := Yaml.triple_true (Yaml.textAt n)
  have list := Yaml.triple_true (Yaml.listAt n Yaml.textAt)
  have attributes := keeps_table.readAt [] List.nodup_nil n
  mvcgen [record, text, list, attributes]
  rename_i read _ _ distinct
  cases read with
  | none => exact List.nodup_nil
  | some os => exact distinct os rfl

/-- A reader that reads distinct names of attributes. -/
def Reader.Distinct (reader : Reader) : Prop :=
  ∀ text f, reader text = .ok f → f.keys.Nodup

/-- The names of a YAML document are distinct, also those that it takes in from elsewhere in it. -/
theorem nodup_keys_of_read {text : String} {f : Overrides} (h : read text = .ok f) :
    f.keys.Nodup := by
  unfold read at h
  cases parsed : Yaml.parse text with
  | error e =>
    rw [parsed] at h
    cases h
  | ok d =>
    rw [parsed] at h
    cases value : d.value (record.readAt {}) with
    | error e =>
      simp only [bind, Except.bind, value, reduceCtorEq] at h
    | ok o =>
      simp only [bind, Except.bind, value] at h
      cases h
      have distinct := Yaml.of_value (keeps_record.readAt {} List.nodup_nil) value
      cases o with
      | none => exact List.nodup_nil
      | some f => exact distinct f rfl

theorem distinct_yaml : Reader.Distinct yaml := by
  intro text f h
  cases read : Overrides.read text with
  | error e =>
    rw [yaml, read] at h
    cases h
  | ok g =>
    rw [yaml, read] at h
    cases h
    exact nodup_keys_of_read read

theorem fault?_eq_none_iff {f : Overrides} :
    f.fault? = none ↔ ∀ n ∈ f.derived ++ f.keys, isQualified n = true := by
  have clear (l : List String) :
      (l.find? fun n => !isQualified n) = none ↔ ∀ n ∈ l, isQualified n = true := by
    simp [List.find?_eq_none]
  rw [List.forall_mem_append, ← clear f.derived]
  cases fault : f.derived.find? fun n => !isQualified n with
  | some n => simp [fault?, fault]
  | none => simp [fault?, fault, keys, List.find?_eq_none]

/-- A document is accepted if all names in it are qualified but for blanks around them. -/
theorem parse_eq_ok_iff {reader : Reader} {text : String} {f : Overrides} :
    parse reader text = .ok f ↔ ∃ g, reader text = .ok g ∧
      (∀ n ∈ g.derived ++ g.keys, isQualified n = true) ∧ f = g.withDefaults := by
  unfold parse
  cases h : reader text with
  | error e =>
    simp only [reduceCtorEq, false_and, exists_false]
  | ok g =>
    simp only [Except.ok.injEq, exists_eq_left', ← fault?_eq_none_iff, checked]
    cases g.fault? <;> simp [eq_comm]

/-- Every override of an accepted file has an effect if and only if every name of an attribute is
one of these names even without the blanks around it.  The derived properties are those of the list
in any case, and an attribute is found under its name as it is written, with its own override. -/
theorem overrides_heeded_iff {reader : Reader} (reads : reader.Distinct) {text : String}
    {f : Overrides} (accepted : parse reader text = .ok f) :
    (f.Heeded ↔ ∀ k ∈ f.keys, Text.trimmed k ∈ f.keys) ∧
    (∀ n, f.derives n = true ↔ ∃ m ∈ f.derived, Text.trimmed m = n) ∧
    (∀ k o, (k, o) ∈ f.attributes → f.attribute? k = some o) ∧
    ∀ n, (f.attribute? n).isSome = true ↔ n ∈ f.keys := by
  obtain ⟨g, hg, -, rfl⟩ := parse_eq_ok_iff.1 accepted
  have distinct : g.keys.Nodup := reads text g hg
  exact ⟨heeded_iff, fun _ => derives_iff, fun _ _ => attribute?_of_mem distinct,
    fun _ => isSome_attribute?_iff⟩

/-- Blanks around the name of a derived property do no harm, nor do those around the name of an
attribute that is there without them too. -/
theorem overrides_heeded_iff_twice :
    ∃ f, parse yaml ("derives: [\" A.c \"]\n" ++
        "attributes:\n  \" A.b\":\n    type: int\n  A.b:\n    type: bool\n") = .ok f ∧
      f.Heeded ∧ f.derives "A.c" = true ∧ f.attribute? "A.b" = some { type := "bool" } := by
  let f : Overrides := {
    version := "1"
    derived := [" A.c "]
    attributes := [(" A.b", { type := "int" }), ("A.b", { type := "bool" })] }
  have accepted : parse yaml ("derives: [\" A.c \"]\n" ++
      "attributes:\n  \" A.b\":\n    type: int\n  A.b:\n    type: bool\n") = .ok f := by
    decide +kernel
  obtain ⟨heeded, derives, own, -⟩ := overrides_heeded_iff distinct_yaml accepted
  exact ⟨f, accepted, heeded.2 (by decide +kernel), (derives "A.c").2 (by decide +kernel),
    own "A.b" { type := "bool" } (by decide +kernel)⟩

/-- A name with a blank before it is accepted, and then its override has no effect. -/
theorem not_heeded_padded :
    ∃ f, parse yaml "attributes:\n  \" A.b\":\n    type: int\n" = .ok f ∧
      f.attribute? "A.b" = none ∧ ¬ f.Heeded := by
  let f : Overrides := { version := "1", attributes := [(" A.b", { type := "int" })] }
  have accepted : parse yaml "attributes:\n  \" A.b\":\n    type: int\n" = .ok f := by
    decide +kernel
  refine ⟨f, accepted, rfl, fun h => ?_⟩
  exact absurd (h.attributes " A.b" List.mem_cons_self) (by decide +kernel)

end ModelCompiler.Overrides
