import ModelCompiler.Element.Session
import ModelCompiler.Proofs.Element.Fields

/-!
# What one event does to a session

The fields of an element stay in step with their order, and the table of the graph with its order:
both have the same names, and an order has each of them once.  What has been made keeps its
identifier, and what has joined the graph stays in it.
-/

namespace ModelCompiler

/-! ## Cells -/

namespace Cell

/-- The order has the names of the fields, each once. -/
structure InStep (c : Cell) : Prop where
  distinct : c.order.Nodup
  names : ∀ name, (c.fields.lookup name).isSome ↔ name ∈ c.order

theorem inStep_bare (id type : String) : InStep { id, type } := ⟨List.nodup_nil, by simp⟩

theorem field_set (c : Cell) (name : String) (f : Field) (n : String) :
    (c.set name f).field n = if n = name then f else c.field n := by
  change (((name, f) :: c.fields).lookup n).getD .absent = _
  rw [lookup_cons_eq]
  split <;> rfl

/-- Only a name that is new is put into the order. -/
theorem InStep.order_set {c : Cell} (h : c.InStep) (name : String) (f : Field) :
    (c.set name f).order = if name ∈ c.order then c.order else c.order ++ [name] := by
  by_cases known : name ∈ c.order
  · rw [set, if_pos ((h.names name).2 known), if_pos known]
  · rw [set, if_neg fun some => known ((h.names name).1 some), if_neg known]

theorem InStep.set {c : Cell} (h : c.InStep) (name : String) (f : Field) :
    (c.set name f).InStep where
  distinct := by
    rw [h.order_set]
    split
    · exact h.distinct
    · rename_i new
      exact List.nodup_append_comm.1 (List.nodup_cons.2 ⟨new, h.distinct⟩)
  names := by
    intro n
    rw [h.order_set, Cell.set, lookup_cons_eq]
    by_cases same : n = name
    · subst same
      rw [if_pos rfl]
      split <;> simp_all
    · rw [if_neg same, h.names n]
      split <;> simp [same]

theorem lookup_resolved_set (c : Cell) (name : String) (f : Field) (n : String) :
    (c.set name f).resolved.lookup n = if n = name then none else c.resolved.lookup n := by
  change (c.resolved.filter (·.1 != name)).lookup n = _
  induction c.resolved with
  | nil => simp
  | cons p l ih =>
    obtain ⟨m, found⟩ := p
    by_cases hm : m = name
    · subst hm
      rw [List.filter_cons_of_neg (by simp), ih, lookup_cons_eq]
      split <;> rfl
    · rw [List.filter_cons_of_pos (by simpa using hm), lookup_cons_eq, lookup_cons_eq, ih]
      by_cases hn : n = m
      · rw [if_pos hn, if_pos hn, if_neg (hn ▸ hm)]
      · rw [if_neg hn, if_neg hn]

/-- The cell after a look-up of a field that found some elements, unless one found others
before. -/
def remember (c : Cell) (name : String) (found : List Nat) : Cell :=
  match c.resolved.lookup name with
  | some _ => c
  | none => { c with resolved := (name, found) :: c.resolved }

@[simp] theorem id_remember (c : Cell) (name : String) (found : List Nat) :
    (c.remember name found).id = c.id := by
  unfold remember
  split <;> rfl

@[simp] theorem fields_remember (c : Cell) (name : String) (found : List Nat) :
    (c.remember name found).fields = c.fields := by
  unfold remember
  split <;> rfl

theorem field_remember (c : Cell) (name : String) (found : List Nat) (n : String) :
    (c.remember name found).field n = c.field n := by
  rw [field, fields_remember, field]

@[simp] theorem order_remember (c : Cell) (name : String) (found : List Nat) :
    (c.remember name found).order = c.order := by
  unfold remember
  split <;> rfl

@[simp] theorem element_remember (c : Cell) (name : String) (found : List Nat) :
    (c.remember name found).element = c.element := by
  unfold remember
  split <;> rfl

theorem lookup_resolved_remember (c : Cell) (name : String) (found : List Nat) (n : String) :
    (c.remember name found).resolved.lookup n =
      if n = name then some ((c.resolved.lookup name).getD found) else c.resolved.lookup n := by
  unfold remember
  split
  · rename_i known
    split
    · rename_i same
      rw [same, known]
      rfl
    · rfl
  · rename_i unknown
    rw [lookup_cons_eq, unknown]
    rfl

end Cell

/-! ## Steps -/

namespace SessionEvent

/-- Whether an event sets a field of an element. -/
def sets (n : Nat) (name : String) : SessionEvent → Bool
  | .set m f _ => m == n && f == name
  | _ => false

/-- Whether an event looks up a field of an element. -/
def looksUp (n : Nat) (name : String) : SessionEvent → Bool
  | .resolve m f | .resolveFirst m f => m == n && f == name
  | _ => false

/-- Whether an event looks up a field of any element. -/
def isLookUp : SessionEvent → Bool
  | .resolve .. | .resolveFirst .. => true
  | _ => false

theorem isLookUp_of_looksUp {n : Nat} {name : String} {e : SessionEvent}
    (h : e.looksUp n name = true) : e.isLookUp = true := by
  cases e <;> first | rfl | cases h

end SessionEvent

namespace Session

variable {s t : Session} {n : Nat} {name : String} {c : Cell} {e : SessionEvent}

/-- What an event makes of an element that is there. -/
def after (s : Session) (n : Nat) (c : Cell) : SessionEvent → Cell
  | .set m f v => if m = n then c.set f v else c
  | .resolve m f | .resolveFirst m f => if m = n then c.remember f (s.deref c f) else c
  | .make .. | .add _ => c

theorem lt_of_cell? (h : s.cell? n = some c) : n < s.cells.length :=
  (List.getElem?_eq_some_iff.1 h).1

theorem exists_cell? (h : n < s.cells.length) : ∃ c, s.cell? n = some c :=
  ⟨_, List.getElem?_eq_getElem h⟩

/-- The element that joins the graph by an event, if one does. -/
def joined? (s : Session) : SessionEvent → Option Nat
  | .add m => match s.cell? m, (s.add m).2 with
    | some _, none => some m
    | _, _ => none
  | _ => none

/-- What adding an element can lead to. -/
theorem add_cases (s : Session) (m : Nat) :
    (s.joined? (.add m) = none ∧ s.step (.add m) = s) ∨
    ∃ c, s.cell? m = some c ∧ s.member? c.id = none ∧ s.joined? (.add m) = some m ∧
      s.step (.add m) = { s with known := (c.id, m) :: s.known, ids := s.ids ++ [c.id] } := by
  rw [joined?, step, add]
  cases h : s.cell? m with
  | none => exact .inl ⟨rfl, rfl⟩
  | some c =>
    by_cases unnamed : c.id = ""
    · simp [unnamed]
    · cases known : s.member? c.id with
      | none => simp [unnamed, known]
      | some k => simp [unnamed, known]

theorem cells_add (s : Session) (m : Nat) : (s.step (.add m)).cells = s.cells := by
  rcases s.add_cases m with ⟨-, same⟩ | ⟨c, -, -, -, grown⟩
  · rw [same]
  · rw [grown]

theorem cell?_resolve (s : Session) (m : Nat) (f : String) (h : s.cell? n = some c) :
    (s.resolve m f).1.cell? n = some (if m = n then c.remember f (s.deref c f) else c) := by
  unfold resolve
  split
  · rename_i unmade
    rw [if_neg fun same => by rw [same, h] at unmade; cases unmade]
    exact h
  · rename_i d made
    split
    · rename_i found known
      by_cases same : m = n
      · subst same
        cases h.symm.trans made
        rw [if_pos rfl, Cell.remember, known]
        exact h
      · rw [if_neg same]
        exact h
    · rename_i unknown
      change (s.cells.modify m _)[n]? = _
      rw [List.getElem?_modify, show s.cells[n]? = some c from h]
      by_cases same : m = n
      · subst same
        cases h.symm.trans made
        simp [Cell.remember, unknown]
      · simp [same]

theorem cell?_step (h : s.cell? n = some c) (e : SessionEvent) :
    (s.step e).cell? n = some (s.after n c e) := by
  cases e with
  | make id type =>
    change (s.cells ++ _)[n]? = some c
    rw [List.getElem?_append_left (lt_of_cell? h)]
    exact h
  | set m f v =>
    change (s.cells.modify m _)[n]? = _
    rw [List.getElem?_modify, show s.cells[n]? = some c from h]
    rfl
  | add m =>
    rw [cell?, cells_add]
    exact h
  | resolve m f => exact cell?_resolve s m f h
  | resolveFirst m f => exact cell?_resolve s m f h

theorem cell?_make (s : Session) (id type : String) :
    (s.step (.make id type)).cell? s.cells.length = some { id, type } :=
  List.getElem?_concat_length

theorem length_cells_resolve (s : Session) (m : Nat) (f : String) :
    (s.resolve m f).1.cells.length = s.cells.length := by
  unfold resolve
  split
  · rfl
  · split
    · rfl
    · exact List.length_modify ..

/-- Only making an element adds one. -/
theorem length_cells_step (s : Session) (e : SessionEvent) :
    (s.step e).cells.length = s.cells.length ∨
      ∃ id type, e = .make id type ∧ (s.step e).cells.length = s.cells.length + 1 := by
  cases e with
  | make id type => exact .inr ⟨id, type, rfl, List.length_append⟩
  | set m f v => exact .inl (List.length_modify ..)
  | add m => exact .inl (congrArg List.length (s.cells_add m))
  | resolve m f => exact .inl (length_cells_resolve s m f)
  | resolveFirst m f => exact .inl (length_cells_resolve s m f)

/-- An element that is not there is made by an event or still not there. -/
theorem cell?_step_of_none (h : s.cell? n = none) (e : SessionEvent) :
    (s.step e).cell? n = none ∨ ∃ id type, e = .make id type ∧ s.cells.length = n := by
  have beyond := List.getElem?_eq_none_iff.1 h
  rcases s.length_cells_step e with same | ⟨id, type, rfl, more⟩
  · exact .inl (List.getElem?_eq_none_iff.2 (same ▸ beyond))
  · by_cases here : s.cells.length = n
    · exact .inr ⟨id, type, rfl, here⟩
    · exact .inl (List.getElem?_eq_none_iff.2 (by omega))

@[simp] theorem id_after (s : Session) (n : Nat) (c : Cell) (e : SessionEvent) :
    (s.after n c e).id = c.id := by
  cases e with
  | make | add => rfl
  | set m f v =>
    rw [after]
    split <;> rfl
  | resolve m f | resolveFirst m f =>
    rw [after]
    split <;> simp

/-- A cell in step stays so. -/
theorem inStep_after (h : c.InStep) (s : Session) (n : Nat) (e : SessionEvent) :
    (s.after n c e).InStep := by
  cases e with
  | make | add => exact h
  | set m f v =>
    rw [after]
    split
    · exact h.set f v
    · exact h
  | resolve m f | resolveFirst m f =>
    rw [after]
    split
    · constructor
      · rw [Cell.order_remember]
        exact h.distinct
      · rw [Cell.fields_remember, Cell.order_remember]
        exact h.names
    · exact h

/-- A look-up leaves the graph as it is. -/
theorem graph_resolve (s : Session) (m : Nat) (f : String) :
    (s.resolve m f).1.known = s.known ∧ (s.resolve m f).1.ids = s.ids := by
  unfold resolve
  split
  · exact ⟨rfl, rfl⟩
  · split <;> exact ⟨rfl, rfl⟩

/-- The graph is left as it is, or an element joins it under an identifier that is new. -/
theorem graph_step (s : Session) (e : SessionEvent) :
    (s.joined? e = none ∧ (s.step e).known = s.known ∧ (s.step e).ids = s.ids) ∨
    ∃ m c, s.cell? m = some c ∧ s.member? c.id = none ∧ s.joined? e = some m ∧
      (s.step e).known = (c.id, m) :: s.known ∧ (s.step e).ids = s.ids ++ [c.id] := by
  cases e with
  | make | set => exact .inl ⟨rfl, rfl, rfl⟩
  | add m =>
    rcases s.add_cases m with ⟨none, same⟩ | ⟨c, made, fresh, joined, grown⟩
    · exact .inl ⟨none, by rw [same], by rw [same]⟩
    · exact .inr ⟨m, c, made, fresh, joined, by rw [grown], by rw [grown]⟩
  | resolve m f | resolveFirst m f => exact .inl ⟨rfl, s.graph_resolve m f⟩

/-! ## Members -/

/-- The identifier of an element. -/
def idOf? (s : Session) (n : Nat) : Option String := (s.cell? n).map (·.id)

/-- What a field refers to in the graph as it is now. -/
def uncached (s : Session) (n : Nat) (name : String) : List Nat :=
  ((s.cell? n).map fun c => s.deref c name).getD []

/-- The elements of a session are in another one with the same identifiers, and so are the members
of its graph, which come before all others. -/
structure Extends (s t : Session) : Prop where
  idOf? : ∀ n id, s.idOf? n = some id → t.idOf? n = some id
  member? : ∀ id n, s.member? id = some n → t.member? id = some n
  ids : s.ids <+: t.ids

theorem Extends.trans {u : Session} (h : s.Extends t) (k : t.Extends u) : s.Extends u where
  idOf? n id hn := k.idOf? n id (h.idOf? n id hn)
  member? id n hn := k.member? id n (h.member? id n hn)
  ids := h.ids.trans k.ids

theorem idOf?_step {id : String} (h : s.idOf? n = some id) (e : SessionEvent) :
    (s.step e).idOf? n = some id := by
  obtain ⟨c, hc, rfl⟩ := Option.map_eq_some_iff.1 h
  rw [idOf?, cell?_step hc e]
  exact congrArg some (s.id_after n c e)

theorem extends_step (s : Session) (e : SessionEvent) : s.Extends (s.step e) where
  idOf? _ _ h := idOf?_step h e
  member? := by
    intro id n h
    rcases s.graph_step e with ⟨-, same, -⟩ | ⟨m, c, -, fresh, -, grown, -⟩
    · rw [member?, same]
      exact h
    · have other : id ≠ c.id := by
        rintro rfl
        cases fresh.symm.trans h
      rw [member?, grown, lookup_cons_eq, if_neg other]
      exact h
  ids := by
    rcases s.graph_step e with ⟨-, -, same⟩ | ⟨m, c, -, -, -, -, grown⟩
    · exact same ▸ List.prefix_rfl
    · rw [grown]
      exact List.prefix_append _ _

theorem extends_run (s : Session) (events : List SessionEvent) : s.Extends (s.run events) := by
  induction events generalizing s with
  | nil => exact ⟨fun _ _ h => h, fun _ _ h => h, List.prefix_rfl⟩
  | cons e events ih => exact (s.extends_step e).trans (ih (s.step e))

/-- The table of the graph has the identifiers of its order, each once and for the element that has
this identifier, and the fields of every element are in step. -/
structure Sound (s : Session) : Prop where
  distinct : s.ids.Nodup
  known : ∀ id, (s.member? id).isSome ↔ id ∈ s.ids
  named : ∀ id n, s.member? id = some n → s.idOf? n = some id
  fields : ∀ n c, s.cell? n = some c → c.InStep

theorem sound_nil : Sound {} := ⟨List.nodup_nil, by simp [member?], nofun, nofun⟩

theorem Sound.member?_eq_none (h : s.Sound) {id : String} (unknown : id ∉ s.ids) :
    s.member? id = none := by
  rwa [← h.known, Bool.not_eq_true, Option.isSome_eq_false_iff, Option.isNone_iff_eq_none]
    at unknown

theorem Sound.step (h : s.Sound) (e : SessionEvent) : (s.step e).Sound := by
  have fields : ∀ n c, (s.step e).cell? n = some c → c.InStep := by
    intro n c hc
    cases old : s.cell? n with
    | some d =>
      cases (cell?_step old e).symm.trans hc
      exact inStep_after (h.fields n d old) s n e
    | none =>
      rcases cell?_step_of_none old e with none | ⟨id, type, rfl, rfl⟩
      · cases none.symm.trans hc
      · cases (s.cell?_make id type).symm.trans hc
        exact Cell.inStep_bare id type
  rcases s.graph_step e with ⟨-, known, ids⟩ | ⟨m, c, made, fresh, -, known, ids⟩
  · refine ⟨ids ▸ h.distinct, fun id => ?_, fun id n hn => ?_, fields⟩
    · rw [member?, known, ids]
      exact h.known id
    · rw [member?, known] at hn
      exact idOf?_step (h.named id n hn) e
  · have new : c.id ∉ s.ids := by
      rw [← h.known, fresh]
      exact Bool.false_ne_true
    refine ⟨?_, fun id => ?_, fun id n hn => ?_, fields⟩
    · rw [ids]
      exact List.nodup_append_comm.1 (List.nodup_cons.2 ⟨new, h.distinct⟩)
    · rw [member?, known, ids, lookup_cons_eq]
      by_cases same : id = c.id
      · simp [same]
      · rw [if_neg same, List.mem_append, List.mem_singleton, or_iff_left same]
        exact h.known id
    · rw [member?, known, lookup_cons_eq] at hn
      split at hn
      · rename_i same
        cases hn
        exact idOf?_step (same ▸ congrArg (Option.map _) made) e
      · exact idOf?_step (h.named id n hn) e

theorem Sound.run (h : s.Sound) (events : List SessionEvent) : (s.run events).Sound := by
  induction events generalizing s with
  | nil => exact h
  | cons e events ih => exact ih (h.step e)

end Session

end ModelCompiler
