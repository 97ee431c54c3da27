import ModelCompiler.Proofs.Element.Document
import ModelCompiler.Proofs.Element.Session
import ModelCompiler.Proofs.Model.Identity

/-!
# Look-ups in a finished graph

A graph is what becomes of a session in which its elements are made, set and added one after the
other.  Main statement: in this session a field is resolved to what the graph finds for it, whatever
has been looked up before.
-/

namespace ModelCompiler

/-! ## Cells as elements -/

theorem putField_of_mem {fs : List (String × Field)} {name : String} (f : Field)
    (distinct : (fs.map Prod.fst).Nodup) (h : name ∈ fs.map Prod.fst) :
    putField name f fs = fs.map fun p => (p.1, if p.1 = name then f else p.2) := by
  induction fs with
  | nil => cases h
  | cons p fs ih =>
    obtain ⟨m, g⟩ := p
    obtain ⟨new, distinct⟩ := List.nodup_cons.1 distinct
    by_cases same : m = name
    · subst same
      have others : fs.map (fun p => (p.1, if p.1 = m then f else p.2)) = fs := by
        refine (List.map_congr_left fun p hp => ?_).trans (List.map_id' fs)
        rw [if_neg fun same => new (List.mem_map.2 ⟨p, hp, same⟩)]
      rw [putField, if_pos rfl, List.map_cons, others, if_pos rfl]
    · have later : name ∈ fs.map Prod.fst :=
        (List.mem_cons.1 h).resolve_left (Ne.symm same)
      rw [putField, if_neg same, List.map_cons, if_neg same, ih distinct later]

theorem putField_of_not_mem {fs : List (String × Field)} {name : String} (f : Field)
    (h : name ∉ fs.map Prod.fst) : putField name f fs = fs ++ [(name, f)] := by
  induction fs with
  | nil => rfl
  | cons p fs ih =>
    obtain ⟨other, later⟩ := not_or.1 (mt List.mem_cons.2 h)
    rw [putField, if_neg (Ne.symm other), ih later, List.cons_append]

theorem lookup_map_pair {α : Type} (names : List String) (value : String → α) (name : String) :
    (names.map fun n => (n, value n)).lookup name =
      if name ∈ names then some (value name) else none := by
  induction names with
  | nil => rfl
  | cons n names ih =>
    rw [List.map_cons, lookup_cons_eq, ih]
    by_cases same : name = n
    · simp [same]
    · simp [same]

namespace Cell

@[simp] theorem map_fst_fields_element (c : Cell) : c.element.fields.map Prod.fst = c.order := by
  simp [element, Function.comp_def]

/-- Setting a field of a cell sets it in the element. -/
theorem InStep.element_set {c : Cell} (h : c.InStep) (name : String) (f : Field) :
    (c.set name f).element = c.element.set name f := by
  have values : (c.set name f).element.fields =
      (c.set name f).order.map fun n => (n, if n = name then f else c.field n) :=
    List.map_congr_left fun n _ => congrArg (n, ·) (c.field_set name f n)
  have fields : (c.set name f).element.fields = putField name f c.element.fields := by
    rw [values, h.order_set]
    by_cases known : name ∈ c.order
    · rw [if_pos known, putField_of_mem f, element, List.map_map]
      · rfl
      · rw [map_fst_fields_element]
        exact h.distinct
      · rwa [map_fst_fields_element]
    · have others : c.order.map (fun n => (n, if n = name then f else c.field n)) =
          c.element.fields := by
        refine List.map_congr_left fun n hn => ?_
        have other : n ≠ name := fun same => known (same ▸ hn)
        rw [if_neg other]
      rw [if_neg known, putField_of_not_mem f, List.map_append, others, List.map_singleton,
        if_pos rfl]
      rwa [map_fst_fields_element]
  rw [Element.set, ← fields]
  rfl

/-- A field of the element is that of the cell. -/
theorem InStep.field_element {c : Cell} (h : c.InStep) (name : String) :
    c.element.field name = c.field name := by
  have entry : c.element.fields.lookup name =
      if name ∈ c.order then some (c.field name) else none :=
    lookup_map_pair c.order c.field name
  rw [Element.field, entry]
  split
  · rfl
  · rename_i unset
    rw [← h.names, Bool.not_eq_true, Option.isSome_eq_false_iff, Option.isNone_iff_eq_none] at unset
    rw [field, unset]

/-- The cell after some settings, one after the other. -/
def setAll (c : Cell) (settings : List (String × Field)) : Cell :=
  settings.foldl (fun c s => c.set s.1 s.2) c

@[simp] theorem id_setAll (c : Cell) (settings : List (String × Field)) :
    (c.setAll settings).id = c.id := by
  induction settings generalizing c with
  | nil => rfl
  | cons s settings ih => exact ih (c.set s.1 s.2)

theorem InStep.element_setAll {c : Cell} (h : c.InStep) (settings : List (String × Field)) :
    (c.setAll settings).element = c.element.setAll settings := by
  induction settings generalizing c with
  | nil => rfl
  | cons s settings ih =>
    have first := h.element_set s.1 s.2
    exact (ih (h.set s.1 s.2)).trans (congrArg (Element.setAll · settings) first)

end Cell

/-- Fields whose names are new are put after the others. -/
theorem Element.fields_setAll_of_nodup {e : Element} {fs : List (String × Field)}
    (distinct : ((e.fields ++ fs).map Prod.fst).Nodup) :
    (e.setAll fs).fields = e.fields ++ fs := by
  induction fs generalizing e with
  | nil => exact (List.append_nil _).symm
  | cons p fs ih =>
    have new : p.1 ∉ e.fields.map Prod.fst := by
      rw [List.map_append, List.map_cons, List.nodup_append] at distinct
      exact fun known => distinct.2.2 _ known _ List.mem_cons_self rfl
    have set : (e.set p.1 p.2).fields = e.fields ++ [p] := putField_of_not_mem p.2 new
    have all : e.fields ++ p :: fs = (e.set p.1 p.2).fields ++ fs := by
      rw [set, List.append_assoc, List.singleton_append]
    rw [all] at distinct ⊢
    exact ih distinct

theorem Element.setAll_fields {e : Element} (distinct : e.fieldNames.Nodup) :
    ({ id := e.id, type := e.type } : Element).setAll e.fields = e := by
  let bare : Element := { id := e.id, type := e.type }
  have none : bare.fields = [] := rfl
  have fields : (bare.setAll e.fields).fields = e.fields := fields_setAll_of_nodup distinct
  change bare.setAll e.fields = e
  rw [setAll_of_bare none, ← fields_setAll none, fields]

/-! ## Making a graph -/

/-- The events by which an element comes into a graph. -/
def Element.making (e : Element) (n : Nat) : List SessionEvent :=
  .make e.id e.type :: e.fields.map (fun p => .set n p.1 p.2) ++ [.add n]

/-- The events by which elements come into a graph, one after the other. -/
def makings : Nat → List Element → List SessionEvent
  | _, [] => []
  | n, e :: es => e.making n ++ makings (n + 1) es

def Graph.makings (g : Graph) : List SessionEvent := ModelCompiler.makings 0 g.elements

theorem isLookUp_makings (n : Nat) (es : List Element) :
    ∀ e ∈ makings n es, e.isLookUp = false := by
  induction es generalizing n with
  | nil => exact nofun
  | cons x es ih =>
    intro e he
    rcases List.mem_append.1 he with he | he
    · simp only [Element.making, List.cons_append, List.mem_cons, List.mem_append, List.mem_map,
        List.not_mem_nil, or_false] at he
      rcases he with rfl | ⟨p, -, rfl⟩ | rfl <;> rfl
    · exact ih (n + 1) e he

namespace Session

variable {s : Session} {g : Graph}

/-- The cells of a session are some elements, and all of them are in its graph. -/
structure Loaded (s : Session) (es : List Element) : Prop where
  sound : s.Sound
  cells : s.cells.map Cell.element = es
  ids : s.ids = es.map Element.id

theorem loaded_nil : Loaded {} [] := ⟨sound_nil, rfl, rfl⟩

theorem run_sets (before : List Cell) (c : Cell) (known : List (String × Nat)) (ids : List String)
    (fs : List (String × Field)) :
    run ⟨before ++ [c], known, ids⟩ (fs.map fun p => .set before.length p.1 p.2) =
      ⟨before ++ [c.setAll fs], known, ids⟩ := by
  induction fs generalizing c with
  | nil => rfl
  | cons p fs ih =>
    have set : step ⟨before ++ [c], known, ids⟩ (.set before.length p.1 p.2) =
        ⟨before ++ [c.set p.1 p.2], known, ids⟩ := by
      simp [step, Session.set, List.modify_eq_take_cons_drop]
    rw [List.map_cons, run, List.foldl_cons, set]
    exact ih (c.set p.1 p.2)

/-- An element that is made, set and added is there and in the graph. -/
theorem Loaded.run_making {es : List Element} {e : Element} (h : s.Loaded es) (named : e.id ≠ "")
    (fresh : e.id ∉ es.map Element.id) (distinct : e.fieldNames.Nodup) :
    (s.run (e.making es.length)).Loaded (es ++ [e]) := by
  have sound := h.sound.run (e.making es.length)
  have count : s.cells.length = es.length := by rw [← h.cells, List.length_map]
  have new : s.member? e.id = none := h.sound.member?_eq_none (h.ids ▸ fresh)
  let bare : Cell := { id := e.id, type := e.type }
  have same : (bare.setAll e.fields).element = e :=
    ((Cell.inStep_bare e.id e.type).element_setAll e.fields).trans (Element.setAll_fields distinct)
  have run : s.run (e.making es.length) =
      { cells := s.cells ++ [bare.setAll e.fields]
        known := (e.id, es.length) :: s.known
        ids := s.ids ++ [e.id] } := by
    have sets := run_sets s.cells bare s.known s.ids e.fields
    have made : (s.cells ++ [bare.setAll e.fields])[s.cells.length]? =
        some (bare.setAll e.fields) := List.getElem?_concat_length
    rw [count] at sets made
    rw [Element.making, List.cons_append, ← List.singleton_append, run_append, run_append]
    change ((run ⟨s.cells ++ [bare], s.known, s.ids⟩ _).add es.length).1 = _
    rw [sets, add, cell?, made]
    simp [named, bare, show s.known.lookup e.id = none from new, member?]
  rw [run] at sound ⊢
  refine ⟨sound, ?_, ?_⟩
  · simp [h.cells, same]
  · simp [h.ids]

theorem Loaded.run_makings {es more : List Element} (h : s.Loaded es)
    (identified : Identified (es ++ more)) (distinct : ∀ e ∈ more, e.fieldNames.Nodup) :
    (s.run (makings es.length more)).Loaded (es ++ more) := by
  induction more generalizing s es with
  | nil =>
    rw [List.append_nil]
    exact h
  | cons e more ih =>
    obtain ⟨named, fresh⟩ := identified.next
    obtain ⟨distinct, others⟩ := List.forall_mem_cons.1 distinct
    have first := h.run_making named fresh distinct
    rw [← List.singleton_append, ← List.append_assoc] at identified ⊢
    have rest := ih first identified others
    rw [List.length_append, List.length_singleton] at rest
    rw [List.singleton_append, makings, run_append]
    exact rest

/-- A look-up changes no element. -/
theorem element_after {e : SessionEvent} (look : e.isLookUp = true) (n : Nat) (c : Cell) :
    (s.after n c e).element = c.element := by
  cases e with
  | make | set | add => cases look
  | resolve m f | resolveFirst m f =>
    rw [after]
    split <;> simp

/-- A look-up changes neither the elements nor the graph. -/
theorem Loaded.step_lookUp {es : List Element} {e : SessionEvent} (h : s.Loaded es)
    (look : e.isLookUp = true) : (s.step e).Loaded es := by
  refine ⟨h.sound.step e, ?_, ?_⟩
  · rw [← h.cells]
    refine List.ext_getElem? fun n => ?_
    rw [List.getElem?_map, List.getElem?_map]
    change ((s.step e).cell? n).map _ = (s.cell? n).map _
    cases hc : s.cell? n with
    | some c => rw [cell?_step hc, Option.map_some, element_after look, Option.map_some]
    | none =>
      rcases cell?_step_of_none hc e with none | ⟨id, type, rfl, -⟩
      · rw [none]
      · cases look
  · cases e with
    | make | set | add => cases look
    | resolve m f | resolveFirst m f => exact (s.graph_resolve m f).2.trans h.ids

theorem Loaded.run_lookUps {es : List Element} {events : List SessionEvent} (h : s.Loaded es)
    (only : ∀ e ∈ events, e.isLookUp = true) : (s.run events).Loaded es := by
  induction events generalizing s with
  | nil => exact h
  | cons e events ih =>
    obtain ⟨look, only⟩ := List.forall_mem_cons.1 only
    exact ih (h.step_lookUp look) only

/-- Nothing joins by a look-up. -/
theorem trace_joined?_lookUps {events : List SessionEvent}
    (only : ∀ e ∈ events, e.isLookUp = true) : trace joined? s events = [] := by
  induction events generalizing s with
  | nil => rfl
  | cons e events ih =>
    obtain ⟨look, only⟩ := List.forall_mem_cons.1 only
    have none : s.joined? e = none := by
      cases e with
      | make | set | add => cases look
      | resolve | resolveFirst => rfl
    rw [trace, none, ih only]
    rfl

/-! ## What is found -/

/-- The element of a number. -/
def element? (s : Session) (n : Nat) : Option Element := (s.cell? n).map Cell.element

theorem Loaded.element?_eq {es : List Element} (h : s.Loaded es) (n : Nat) :
    s.element? n = es[n]? := by
  rw [← h.cells, List.getElem?_map]
  rfl

/-- The table of the session finds what the graph finds. -/
theorem Loaded.element?_member? (h : s.Loaded g.elements) (id : String) :
    (s.member? id).bind s.element? = g.get? id := by
  cases found : s.member? id with
  | some n =>
    obtain ⟨c, hc, named⟩ := Option.map_eq_some_iff.1 (h.sound.named id n found)
    have element : s.element? n = some c.element := congrArg (Option.map _) hc
    have member : c.element ∈ g.elements := by
      rw [h.element?_eq] at element
      exact List.mem_of_getElem? element
    rw [Option.bind_some, element]
    exact (Graph.get?_eq_some.2 ⟨member, named⟩).symm
  | none =>
    cases there : g.get? id with
    | none => rfl
    | some e =>
      obtain ⟨member, rfl⟩ := Graph.get?_eq_some.1 there
      have known := (h.sound.known e.id).2 (h.ids ▸ List.mem_map_of_mem member)
      rw [found] at known
      cases known

/-- What a field refers to now is what the graph resolves it to. -/
theorem Loaded.filterMap_uncached {n : Nat} {e : Element} (h : s.Loaded g.elements)
    (made : g.elements[n]? = some e) (name : String) :
    (s.uncached n name).filterMap s.element? = g.resolve e name := by
  obtain ⟨c, hc, rfl⟩ := Option.map_eq_some_iff.1 ((h.element?_eq n).trans made)
  have same : (c.field name).targets = c.element.refs name :=
    congrArg Field.targets ((h.sound.fields n c hc).field_element name).symm
  rw [uncached, hc]
  change ((c.field name).targets.filterMap s.member?).filterMap s.element? = _
  rw [List.filterMap_filterMap, same]
  exact List.filterMap_congr fun id _ => h.element?_member? id

theorem loaded_makings (distinct : ∀ e ∈ g.elements, e.fieldNames.Nodup) :
    (run {} g.makings).Loaded g.elements :=
  loaded_nil.run_makings g.identified distinct

/-- What a field refers to are elements. -/
theorem Sound.isSome_element? {n m : Nat} {name : String} (h : s.Sound)
    (found : m ∈ s.uncached n name) : (s.element? m).isSome := by
  rw [uncached] at found
  cases hc : s.cell? n with
  | none =>
    rw [hc] at found
    cases found
  | some c =>
    rw [hc] at found
    obtain ⟨id, -, known⟩ := List.mem_filterMap.1 found
    obtain ⟨d, hd, -⟩ := Option.map_eq_some_iff.1 (h.named id m known)
    rw [element?, hd]
    rfl

/-- In a session that has made a graph, a field is resolved to what the graph resolves it to, now
and after any look-ups. -/
theorem resolve_of_makings (distinct : ∀ e ∈ g.elements, e.fieldNames.Nodup)
    {lookUps : List SessionEvent} (only : ∀ e ∈ lookUps, e.isLookUp = true) {n : Nat} {e : Element}
    (made : g.elements[n]? = some e) (name : String) :
    let s := run {} (g.makings ++ lookUps)
    (s.resolve n name).2.filterMap s.element? = g.resolve e name ∧
      (s.resolveFirst n name).2.bind s.element? = g.resolveFirst? e name := by
  intro s
  have loaded : s.Loaded g.elements := by
    rw [show s = _ from run_append ..]
    exact (loaded_makings distinct).run_lookUps only
  have fresh : (s.resolve n name).2 = s.uncached n name :=
    resolve_eq_uncached rfl (isLookUp_makings 0 g.elements) (trace_joined?_lookUps only) n name
  have found : (s.resolve n name).2.filterMap s.element? = g.resolve e name := by
    rw [fresh, loaded.filterMap_uncached made]
  refine ⟨found, ?_⟩
  change (s.resolve n name).2.head?.bind s.element? = _
  rw [Graph.resolveFirst?, ← found, fresh]
  cases all : s.uncached n name with
  | nil => rfl
  | cons m ms =>
    have first : m ∈ s.uncached n name := all ▸ List.mem_cons_self
    obtain ⟨x, hx⟩ := Option.isSome_iff_exists.1 (loaded.sound.isSome_element? first)
    rw [List.filterMap_cons, List.head?_cons, Option.bind_some, hx, List.head?_cons]

end Session

/-! ## Documents -/

theorem Element.nodup_fieldNames_set {e : Element} (h : e.fieldNames.Nodup) (name : String)
    (f : Field) : (e.set name f).fieldNames.Nodup := by
  rw [fieldNames_set]
  split
  · exact h
  · rename_i new
    exact List.nodup_append_comm.1 (List.nodup_cons.2 ⟨new, h⟩)

namespace Reading

/-- The elements that have been read have fields with names of their own. -/
def Distinct : Reading → Prop
  | .before => True
  | .done g => ∀ e ∈ g.elements, e.fieldNames.Nodup
  | .inside g opened => (∀ e ∈ g.elements, e.fieldNames.Nodup) ∧
    match opened with
    | .root => True
    | .element e | .field e _ | .content e _ _ => e.fieldNames.Nodup

theorem Distinct.opening {r : Reading} (h : r.Distinct) (tag : Markup.Name)
    (attributes : List Markup.Attribute) : (r.opening tag attributes).Distinct := by
  cases r with
  | before => exact ⟨nofun, trivial⟩
  | done g => exact h
  | inside g opened =>
    cases opened with
    | root => exact ⟨h.1, List.nodup_nil⟩
    | element | field | content => exact h

theorem nodup_closeField {e : Element} (h : e.fieldNames.Nodup) (f : OpenField) :
    (closeField e f).fieldNames.Nodup := by
  rw [closeField]
  split
  · exact h
  · exact Element.nodup_fieldNames_set h _ _

theorem Distinct.closing {r r' : Reading} (h : r.Distinct) (closed : r.closing = .ok r') :
    r'.Distinct := by
  cases r with
  | before =>
    cases closed
    trivial
  | done g =>
    cases closed
    exact h
  | inside g opened =>
    cases opened with
    | root =>
      cases closed
      exact h.1
    | element e =>
      rw [Reading.closing] at closed
      rcases g.add_cases e with ⟨-, failed⟩ | ⟨-, failed⟩ | ⟨g', joined, elements⟩
      · rw [failed] at closed
        cases closed
      · rw [failed] at closed
        cases closed
      · rw [joined] at closed
        cases closed
        refine ⟨fun x hx => ?_, trivial⟩
        rw [elements, List.mem_append, List.mem_singleton] at hx
        rcases hx with hx | rfl
        · exact h.1 x hx
        · exact h.2
    | field e f =>
      cases closed
      exact ⟨h.1, nodup_closeField h.2 f⟩
    | content e f c =>
      rw [Reading.closing] at closed
      split at closed
      · cases closed
        exact h
      · cases closed
        exact h

theorem Distinct.step {r r' : Reading} {t : Markup.Token} (h : r.Distinct)
    (read : r.step t = .ok r') : r'.Distinct := by
  cases t with
  | opening tag attributes =>
    cases read
    exact h.opening tag attributes
  | closing tag => exact h.closing read
  | text content =>
    cases read
    cases r with
    | before | done => exact h
    | inside g opened => cases opened <;> exact h

theorem Distinct.finish {r : Reading} {complete : Bool} {g : Graph} (h : r.Distinct)
    (read : r.finish complete = .ok g) : ∀ e ∈ g.elements, e.fieldNames.Nodup := by
  cases r with
  | done =>
    cases read
    exact h
  | before | inside => cases read

theorem Distinct.run {r : Reading} {complete : Bool} {g : Graph} (h : r.Distinct)
    {ts : List Markup.Token} (read : r.run complete ts = .ok g) :
    ∀ e ∈ g.elements, e.fieldNames.Nodup := by
  induction ts generalizing r with
  | nil =>
    cases r with
    | done =>
      cases read
      exact h
    | before | inside => exact h.finish read
  | cons t ts ih =>
    cases r with
    | done =>
      cases read
      exact h
    | before | inside =>
      rw [Reading.run] at read
      · split at read
        · rename_i next
          exact ih (h.step next) read
        · cases read
      · intro g same
        cases same

end Reading

/-- The graph of a document has elements whose fields have names of their own. -/
theorem Graph.nodup_fieldNames {document : String} {g : Graph}
    (read : Graph.ofDocument document = .ok g) : ∀ e ∈ g.elements, e.fieldNames.Nodup :=
  Reading.Distinct.run (r := .before) trivial read

/-- Look-ups in the graph of a document, remembered or not, find the same. -/
theorem Session.resolve_of_document {document : String} {g : Graph}
    (read : Graph.ofDocument document = .ok g) {lookUps : List SessionEvent}
    (only : ∀ e ∈ lookUps, e.isLookUp = true) {n : Nat} {e : Element}
    (made : g.elements[n]? = some e) (name : String) :
    let s := run {} (g.makings ++ lookUps)
    (s.resolve n name).2.filterMap s.element? = g.resolve e name ∧
      (s.resolveFirst n name).2.bind s.element? = g.resolveFirst? e name :=
  resolve_of_makings (Graph.nodup_fieldNames read) only made name

end ModelCompiler
