import Mathlib.Data.List.Induction
import Mathlib.Data.List.Nodup
import ModelCompiler.Element.Basic

/-!
# Fields after settings

An element begins without fields and is set one field at a time.  Main statement: its fields stand
in the order in which their names were first set, each with the value that it was given last.
-/

namespace ModelCompiler

theorem eraseDups_concat (l : List String) (a : String) :
    (l ++ [a]).eraseDups = if a ∈ l then l.eraseDups else l.eraseDups ++ [a] := by
  rw [List.eraseDups_append]
  by_cases h : a ∈ l
  · simp [h, List.removeAll]
  · simp [h, List.removeAll, List.eraseDups_cons]

theorem nodup_eraseDups (l : List String) : l.eraseDups.Nodup := by
  induction l using List.reverseRecOn with
  | nil => exact List.nodup_nil
  | append_singleton l a ih =>
    rw [eraseDups_concat]
    split
    · exact ih
    · rename_i fresh
      rw [← List.mem_eraseDups] at fresh
      exact List.nodup_append_comm.1 (List.nodup_cons.2 ⟨fresh, ih⟩)

theorem lookup_cons_eq {α : Type} (m : String) (a : α) (l : List (String × α)) (n : String) :
    ((m, a) :: l).lookup n = if n = m then some a else l.lookup n := by
  rw [List.lookup_cons]
  by_cases h : n = m
  · simp [h]
  · rw [beq_false_of_ne h, if_neg h]

theorem map_fst_putField (name : String) (f : Field) (fs : List (String × Field)) :
    (putField name f fs).map Prod.fst =
      if name ∈ fs.map Prod.fst then fs.map Prod.fst else fs.map Prod.fst ++ [name] := by
  induction fs with
  | nil => rfl
  | cons p fs ih =>
    obtain ⟨n, g⟩ := p
    by_cases h : n = name
    · simp [putField, h]
    · have other : name ≠ n := Ne.symm h
      simp only [putField, if_neg h, List.map_cons, ih, List.mem_cons, other, false_or]
      split <;> rfl

theorem eq_map_lookup {fs : List (String × Field)} (h : (fs.map Prod.fst).Nodup) :
    fs = (fs.map Prod.fst).map fun n => (n, (fs.lookup n).getD .absent) := by
  induction fs with
  | nil => rfl
  | cons p fs ih =>
    obtain ⟨n, f⟩ := p
    obtain ⟨fresh, rest⟩ := List.nodup_cons.1 h
    have others : (fs.map Prod.fst).map (fun m => (m, (((n, f) :: fs).lookup m).getD .absent)) =
        (fs.map Prod.fst).map fun m => (m, (fs.lookup m).getD .absent) := by
      refine List.map_congr_left fun m hm => ?_
      have ne : m ≠ n := fun same => fresh (same ▸ hm)
      rw [List.lookup_cons, beq_false_of_ne ne]
    rw [List.map_cons, List.map_cons, others, ← ih rest]
    simp

namespace Element

/-- The names of the fields, in their order. -/
def fieldNames (e : Element) : List String := e.fields.map Prod.fst

theorem fieldNames_set (e : Element) (name : String) (f : Field) :
    (e.set name f).fieldNames =
      if name ∈ e.fieldNames then e.fieldNames else e.fieldNames ++ [name] :=
  map_fst_putField name f e.fields

/-- Names in the order in which they were first set stay so. -/
theorem fieldNames_set_of_eq {e : Element} {names : List String}
    (h : e.fieldNames = names.eraseDups) (name : String) (f : Field) :
    (e.set name f).fieldNames = (names ++ [name]).eraseDups := by
  rw [fieldNames_set, h, eraseDups_concat]
  simp only [List.mem_eraseDups]

/-- Fields with names of their own are listed by their names. -/
theorem fields_eq_map {e : Element} (h : e.fieldNames.Nodup) :
    e.fields = e.fieldNames.map fun name => (name, e.field name) := eq_map_lookup h

/-- The element after some settings, one after the other. -/
def setAll (e : Element) (settings : List (String × Field)) : Element :=
  settings.foldl (fun e s => e.set s.1 s.2) e

@[simp] theorem setAll_nil (e : Element) : e.setAll [] = e := rfl

theorem setAll_concat (e : Element) (settings : List (String × Field)) (s : String × Field) :
    e.setAll (settings ++ [s]) = (e.setAll settings).set s.1 s.2 := by
  rw [setAll, List.foldl_append]
  rfl

@[simp] theorem id_setAll (e : Element) (settings : List (String × Field)) :
    (e.setAll settings).id = e.id := by
  induction settings using List.reverseRecOn with
  | nil => rfl
  | append_singleton settings s ih => rw [setAll_concat, id_set, ih]

@[simp] theorem type_setAll (e : Element) (settings : List (String × Field)) :
    (e.setAll settings).type = e.type := by
  induction settings using List.reverseRecOn with
  | nil => rfl
  | append_singleton settings s ih => rw [setAll_concat, type_set, ih]

/-- The value that a field was given last. -/
def lastValue? (settings : List (String × Field)) (name : String) : Option Field :=
  ((settings.filter (·.1 == name)).getLast?).map Prod.snd

theorem field_setAll (e : Element) (settings : List (String × Field)) (name : String) :
    (e.setAll settings).field name = (lastValue? settings name).getD (e.field name) := by
  induction settings using List.reverseRecOn with
  | nil => rfl
  | append_singleton settings s ih =>
    rw [setAll_concat, field_set, ih, lastValue?, lastValue?, List.filter_append]
    by_cases h : name = s.1
    · simp [h]
    · simp [h, Ne.symm h]

theorem fieldNames_setAll {e : Element} (bare : e.fields = [])
    (settings : List (String × Field)) :
    (e.setAll settings).fieldNames = (settings.map Prod.fst).eraseDups := by
  induction settings using List.reverseRecOn with
  | nil => simp [fieldNames, bare]
  | append_singleton settings s ih =>
    rw [setAll_concat, fieldNames_set_of_eq ih, List.map_append]
    rfl

/-- The fields stand in the order in which their names were first set, each with its last value. -/
theorem fields_setAll {e : Element} (bare : e.fields = []) (settings : List (String × Field)) :
    (e.setAll settings).fields = (settings.map Prod.fst).eraseDups.map fun name =>
      (name, (lastValue? settings name).getD .absent) := by
  have names := fieldNames_setAll bare settings
  have distinct : (e.setAll settings).fieldNames.Nodup := names ▸ nodup_eraseDups _
  rw [fields_eq_map distinct, names]
  refine List.map_congr_left fun name _ => ?_
  rw [field_setAll, field, bare]
  rfl

theorem setAll_of_bare {e : Element} (bare : e.fields = []) (settings : List (String × Field)) :
    e.setAll settings =
      { e with
        fields := (settings.map Prod.fst).eraseDups.map fun name =>
          (name, (lastValue? settings name).getD .absent) } := by
  rw [← fields_setAll bare]
  calc
    e.setAll settings =
        ⟨(e.setAll settings).id, (e.setAll settings).type, (e.setAll settings).fields⟩ := rfl
    _ = ⟨e.id, e.type, (e.setAll settings).fields⟩ := by rw [id_setAll, type_setAll]

end Element

end ModelCompiler
