import ModelCompiler.Proofs.Element.Steps

/-!
# What a session remembers

References that have been looked up are remembered until their field is set again, whatever joins
the graph in the meantime.  Main statement: an element that is asked for a field answers by the
value that the field was given last and by the graph as it was when the field was first looked up
after that.  Tables and the lists beside them stay in step: the identifiers of the graph are those
of the elements that joined it, in order, and the fields of an element stand in the order in which
their names were first set.
-/

namespace ModelCompiler

namespace Session

variable {s t : Session} {n : Nat} {name : String} {c : Cell} {e : SessionEvent}

/-! ## What happens in a run -/

theorem run_append (s : Session) (events more : List SessionEvent) :
    s.run (events ++ more) = (s.run events).run more :=
  List.foldl_append

theorem run_concat (s : Session) (events : List SessionEvent) (e : SessionEvent) :
    s.run (events ++ [e]) = (s.run events).step e :=
  s.run_append events [e]

/-- What the events of a run amount to, one after the other. -/
def trace {α : Type} (what : Session → SessionEvent → Option α) (s : Session) :
    List SessionEvent → List α
  | [] => []
  | e :: events => (what s e).toList ++ trace what (s.step e) events

theorem trace_append {α : Type} (what : Session → SessionEvent → Option α) (s : Session)
    (events more : List SessionEvent) :
    trace what s (events ++ more) = trace what s events ++ trace what (s.run events) more := by
  induction events generalizing s with
  | nil => rfl
  | cons e events ih =>
    rw [List.cons_append, trace, trace, ih, List.append_assoc]
    rfl

theorem trace_concat {α : Type} (what : Session → SessionEvent → Option α) (s : Session)
    (events : List SessionEvent) (e : SessionEvent) :
    trace what s (events ++ [e]) = trace what s events ++ (what (s.run events) e).toList := by
  rw [trace_append]
  exact congrArg _ (List.append_nil _)

/-- An element is in the graph, under its identifier. -/
def Has (s : Session) (id : String) (n : Nat) : Prop :=
  s.idOf? n = some id ∧ s.member? id = some n

theorem Extends.has {id : String} (h : s.Extends t) (has : s.Has id n) : t.Has id n :=
  ⟨h.idOf? n id has.1, h.member? id n has.2⟩

/-- The order of the graph goes on with the element that joins it. -/
theorem forall₂_has_step {joined : List Nat} (h : List.Forall₂ s.Has s.ids joined)
    (e : SessionEvent) :
    List.Forall₂ (s.step e).Has (s.step e).ids (joined ++ (s.joined? e).toList) := by
  have kept : List.Forall₂ (s.step e).Has s.ids joined := h.imp fun _ _ => (s.extends_step e).has
  rcases s.graph_step e with ⟨none, -, same⟩ | ⟨m, c, made, -, some, known, grown⟩
  · rw [none, same, Option.toList_none, List.append_nil]
    exact kept
  · have new : (s.step e).Has c.id m := by
      refine ⟨idOf?_step (congrArg (Option.map _) made) e, ?_⟩
      rw [member?, known, lookup_cons_eq, if_pos rfl]
    rw [some, grown]
    exact List.rel_append kept (.cons new .nil)

/-- The order of the graph is that of the elements that joined it. -/
theorem forall₂_has_run {joined : List Nat} (h : List.Forall₂ s.Has s.ids joined)
    (events : List SessionEvent) :
    List.Forall₂ (s.run events).Has (s.run events).ids (joined ++ trace joined? s events) := by
  induction events generalizing s joined with
  | nil =>
    rw [trace, List.append_nil]
    exact h
  | cons e events ih =>
    rw [trace, ← List.append_assoc]
    exact ih (forall₂_has_step h e)

/-- While nothing joins, the graph stays the same. -/
theorem graph_run_of_trace {events : List SessionEvent} (none : trace joined? s events = []) :
    (s.run events).known = s.known ∧ (s.run events).ids = s.ids := by
  induction events generalizing s with
  | nil => exact ⟨rfl, rfl⟩
  | cons e events ih =>
    obtain ⟨here, later⟩ := List.append_eq_nil_iff.1 none
    obtain ⟨known, ids⟩ := ih later
    rcases s.graph_step e with ⟨-, known', ids'⟩ | ⟨m, c, -, -, joins, -, -⟩
    · exact ⟨known.trans known', ids.trans ids'⟩
    · rw [joins] at here
      cases here

/-- What is found in the graph of a session are, later too, the elements with the identifiers that
the graph knew. -/
theorem Extends.map_idOf? (h : s.Extends t) (sound : s.Sound) (ids : List String) :
    (ids.filterMap s.member?).map t.idOf? = (ids.filter s.ids.contains).map some := by
  rw [List.map_filterMap, ← List.filterMap_eq_map, List.filterMap_filter]
  refine List.filterMap_congr fun id _ => ?_
  by_cases known : id ∈ s.ids
  · obtain ⟨n, hn⟩ := Option.isSome_iff_exists.1 ((sound.known id).2 known)
    rw [hn, if_pos (List.contains_iff_mem.2 known)]
    exact congrArg some (h.idOf? n id (sound.named id n hn))
  · rw [sound.member?_eq_none known, if_neg fun has => known (List.contains_iff_mem.1 has)]
    rfl

/-- The name that a field of an element is set by. -/
def setName? (n : Nat) (s : Session) : SessionEvent → Option String
  | .set m f _ => if m = n ∧ n < s.cells.length then some f else none
  | _ => none

/-- The fields of an element are those that have been set, by their first settings. -/
theorem order_run (n : Nat) (events : List SessionEvent) :
    (((run {} events).cell? n).elim [] Cell.order) =
      (trace (setName? n) {} events).eraseDups := by
  induction events using List.reverseRecOn with
  | nil => rfl
  | append_singleton events e ih =>
    rw [run_concat, trace_concat]
    have sound : (run {} events).Sound := sound_nil.run events
    generalize run {} events = s at ih sound ⊢
    cases hc : s.cell? n with
    | some c =>
      rw [hc] at ih
      have ih : c.order = (trace (setName? n) {} events).eraseDups := ih
      rw [cell?_step hc]
      cases e with
      | set m f v =>
        rw [after, setName?]
        by_cases same : m = n
        · rw [if_pos same, if_pos ⟨same, lt_of_cell? hc⟩]
          change (c.set f v).order = (_ ++ [f]).eraseDups
          rw [(sound.fields n c hc).order_set, ih, eraseDups_concat]
          simp only [List.mem_eraseDups]
        · rw [if_neg same, if_neg fun both => same both.1]
          simpa using ih
      | make | add => simpa [after, setName?] using ih
      | resolve m f | resolveFirst m f =>
        rw [after]
        split <;> simpa [setName?] using ih
    | none =>
      have unmade : ¬ n < s.cells.length := Nat.not_lt.2 (List.getElem?_eq_none_iff.1 hc)
      have nothing : setName? n s e = none := by
        cases e with
        | set m f v => exact if_neg fun both => unmade both.2
        | make | add | resolve | resolveFirst => rfl
      rw [hc] at ih
      rw [nothing, Option.toList_none, List.append_nil, ← ih]
      rcases cell?_step_of_none hc e with none | ⟨id, type, rfl, rfl⟩
      · rw [none]
      · rw [cell?_make]
        rfl

/-! ## What a field is remembered by -/

/-- An element is there, with a value for a field and perhaps with what was found when the field was
looked up. -/
def Holds (s : Session) (n : Nat) (name : String) (v : Field) (found : Option (List Nat)) : Prop :=
  ∃ c, s.cell? n = some c ∧ c.field name = v ∧ c.resolved.lookup name = found

/-- An event gives a field of an element a value: the element is made without one, or the field is
set. -/
inductive Gives (s : Session) (n : Nat) (name : String) : SessionEvent → Field → Prop
  | make (id type : String) : s.cells.length = n → Gives s n name (.make id type) .absent
  | set (v : Field) : n < s.cells.length → Gives s n name (.set n name v) v

variable {v : Field} {found : Option (List Nat)}

theorem holds_of_gives (h : s.Gives n name e v) : (s.step e).Holds n name v none := by
  cases h with
  | make id type here =>
    subst here
    exact ⟨_, s.cell?_make id type, rfl, rfl⟩
  | set v made =>
    obtain ⟨c, hc⟩ := exists_cell? made
    refine ⟨_, cell?_step hc _, ?_⟩
    rw [after, if_pos rfl]
    exact ⟨(c.field_set ..).trans (if_pos rfl), (c.lookup_resolved_set ..).trans (if_pos rfl)⟩

/-- What neither sets nor looks up a field leaves it as it is. -/
theorem Holds.step_other (h : s.Holds n name v found) (unset : e.sets n name = false)
    (unread : e.looksUp n name = false) : (s.step e).Holds n name v found := by
  obtain ⟨c, hc, rfl, rfl⟩ := h
  refine ⟨_, cell?_step hc e, ?_⟩
  cases e with
  | make | add => exact ⟨rfl, rfl⟩
  | set m f w =>
    rw [after]
    split
    · have other : name ≠ f := by
        rintro rfl
        simp_all [SessionEvent.sets]
      exact ⟨(c.field_set ..).trans (if_neg other),
        (c.lookup_resolved_set ..).trans (if_neg other)⟩
    · exact ⟨rfl, rfl⟩
  | resolve m f | resolveFirst m f =>
    rw [after]
    split
    · have other : name ≠ f := by
        rintro rfl
        simp_all [SessionEvent.looksUp]
      exact ⟨c.field_remember .., (c.lookup_resolved_remember ..).trans (if_neg other)⟩
    · exact ⟨rfl, rfl⟩

/-- A look-up of a field is remembered unless an earlier one is. -/
theorem Holds.step_looksUp (h : s.Holds n name v found) (read : e.looksUp n name = true) :
    (s.step e).Holds n name v (some (found.getD (v.targets.filterMap s.member?))) := by
  obtain ⟨c, hc, rfl, rfl⟩ := h
  refine ⟨_, cell?_step hc e, ?_⟩
  cases e with
  | make | add | set => cases read
  | resolve m f | resolveFirst m f =>
    obtain ⟨rfl, rfl⟩ : m = n ∧ f = name := by simpa [SessionEvent.looksUp] using read
    rw [after, if_pos rfl]
    exact ⟨c.field_remember .., (c.lookup_resolved_remember ..).trans (if_pos rfl)⟩

theorem Holds.resolve (h : s.Holds n name v found) :
    (s.resolve n name).2 = found.getD (v.targets.filterMap s.member?) := by
  obtain ⟨c, hc, rfl, rfl⟩ := h
  rw [Session.resolve, hc]
  cases hr : c.resolved.lookup name with
  | none => simp [hr]; rfl
  | some found => simp [hr]

theorem Holds.run_unread (h : s.Holds n name v found) {events : List SessionEvent}
    (unset : ∀ e ∈ events, e.sets n name = false)
    (unread : ∀ e ∈ events, e.looksUp n name = false) : (s.run events).Holds n name v found := by
  induction events generalizing s with
  | nil => exact h
  | cons e events ih =>
    obtain ⟨unset, unset'⟩ := List.forall_mem_cons.1 unset
    obtain ⟨unread, unread'⟩ := List.forall_mem_cons.1 unread
    exact ih (h.step_other unset unread) unset' unread'

/-- What has been found is kept until the field is set. -/
theorem Holds.run_found {known : List Nat} (h : s.Holds n name v (some known))
    {events : List SessionEvent} (unset : ∀ e ∈ events, e.sets n name = false) :
    (s.run events).Holds n name v (some known) := by
  induction events generalizing s with
  | nil => exact h
  | cons e events ih =>
    obtain ⟨unset, unset'⟩ := List.forall_mem_cons.1 unset
    refine ih ?_ unset'
    cases read : e.looksUp n name with
    | false => exact h.step_other unset read
    | true => exact h.step_looksUp read

end Session

/-- How a field of an element came to what is known of it in a run: an event gave it its value, and
of those that followed none set it, the unread ones did not look it up, and the first of the others
did. -/
structure FieldHistory (events : List SessionEvent) (n : Nat) (name : String) where
  before : List SessionEvent
  origin : SessionEvent
  value : Field
  unread : List SessionEvent
  read : List SessionEvent
  events_eq : events = before ++ origin :: (unread ++ read)
  gives : (Session.run {} before).Gives n name origin value
  unset : ∀ e ∈ unread ++ read, e.sets n name = false
  quiet : ∀ e ∈ unread, e.looksUp n name = false
  begins : ∀ e ∈ read.head?, e.looksUp n name = true

namespace FieldHistory

variable {events : List SessionEvent} {n : Nat} {name : String}

/-- The session in which the field was first looked up, or the last one if it has not been. -/
def seen (h : FieldHistory events n name) : Session :=
  .run {} (h.before ++ h.origin :: h.unread)

/-- A history goes on with an event that does not set the field. -/
def extend (h : FieldHistory events n name) (e : SessionEvent) (unset : e.sets n name = false) :
    FieldHistory (events ++ [e]) n name :=
  have unset : ∀ x ∈ (h.unread ++ h.read) ++ [e], x.sets n name = false := by
    intro x hx
    rcases List.mem_append.1 hx with hx | hx
    · exact h.unset x hx
    · exact List.mem_singleton.1 hx ▸ unset
  if more : h.read = [] ∧ e.looksUp n name = false then
    { h with
      unread := h.unread ++ [e]
      read := []
      events_eq := by
        conv_lhs => rw [h.events_eq, more.1]
        simp
      unset := by simpa [more.1] using unset
      quiet := by
        intro x hx
        rcases List.mem_append.1 hx with hx | hx
        · exact h.quiet x hx
        · exact List.mem_singleton.1 hx ▸ more.2
      begins := by simp }
  else
    { h with
      read := h.read ++ [e]
      events_eq := by
        conv_lhs => rw [h.events_eq]
        simp
      unset := by simpa using unset
      begins := by
        intro x hx
        cases hr : h.read with
        | nil =>
          rw [hr] at hx more
          cases hx
          simpa using more
        | cons y read =>
          rw [hr] at hx
          exact h.begins x (by rw [hr]; exact hx) }

/-- Each field of each element has a history. -/
theorem exists_of_lt (h : n < (Session.run {} events).cells.length) (name : String) :
    Nonempty (FieldHistory events n name) := by
  induction events using List.reverseRecOn with
  | nil => cases h
  | append_singleton events e ih =>
    by_cases given : ∃ v, (Session.run {} events).Gives n name e v
    · obtain ⟨v, given⟩ := given
      exact ⟨⟨events, e, v, [], [], rfl, given, by simp, by simp, by simp⟩⟩
    · have made : n < (Session.run {} events).cells.length := by
        rw [Session.run_concat] at h
        rcases Session.length_cells_step (.run {} events) e with same | ⟨id, type, rfl, more⟩
        · exact same ▸ h
        · have other : (Session.run {} events).cells.length ≠ n :=
            fun here => given ⟨.absent, .make id type here⟩
          omega
      have unset : e.sets n name = false := by
        by_contra sets
        cases e with
        | set m f v =>
          obtain ⟨rfl, rfl⟩ : m = n ∧ f = name := by simpa [SessionEvent.sets] using sets
          exact given ⟨v, .set v made⟩
        | make | add | resolve | resolveFirst => exact sets rfl
      obtain ⟨earlier⟩ := ih made
      exact ⟨earlier.extend e unset⟩

theorem run_eq (h : FieldHistory events n name) :
    Session.run {} events = h.seen.run h.read := by
  conv_lhs => rw [h.events_eq]
  rw [seen, ← Session.run_append]
  simp

/-- What is known of a field agrees with its history. -/
theorem holds (h : FieldHistory events n name) :
    (Session.run {} events).Holds n name h.value
      (if h.read = [] then none else some (h.value.targets.filterMap h.seen.member?)) := by
  have unset := List.forall_mem_append.1 h.unset
  have seen : h.seen.Holds n name h.value none := by
    rw [seen, Session.run_append]
    exact (Session.holds_of_gives h.gives).run_unread unset.1 h.quiet
  rw [h.run_eq]
  cases hr : h.read with
  | nil => exact seen
  | cons e read =>
    rw [hr] at unset
    have first := seen.step_looksUp (h.begins e (by rw [hr]; rfl))
    exact first.run_found (List.forall_mem_cons.1 unset.2).2

/-- A look-up answers by the last value and the graph of the first look-up. -/
theorem resolve_eq (h : FieldHistory events n name) :
    ((Session.run {} events).resolve n name).2 =
      h.value.targets.filterMap h.seen.member? := by
  rw [h.holds.resolve, h.run_eq]
  split
  · rename_i unread
    rw [unread]
    rfl
  · rfl

/-- Looking up a field anew finds what the graph knows now. -/
theorem uncached_eq (h : FieldHistory events n name) :
    (Session.run {} events).uncached n name =
      h.value.targets.filterMap (Session.run {} events).member? := by
  obtain ⟨c, hc, value, -⟩ := h.holds
  rw [Session.uncached, hc, ← value]
  rfl

theorem known_seen (h : FieldHistory events n name) {quiet later : List SessionEvent}
    (split : events = quiet ++ later) (unread : ∀ e ∈ quiet, e.isLookUp = false)
    (none : Session.trace Session.joined? (.run {} quiet) later = []) :
    (Session.run {} events).known = h.seen.known := by
  rw [h.run_eq]
  refine (Session.graph_run_of_trace ?_).1
  cases hr : h.read with
  | nil => rfl
  | cons e read =>
    have first : e.isLookUp = true :=
      SessionEvent.isLookUp_of_looksUp (h.begins e (by rw [hr]; rfl))
    have parts : quiet ++ later = (h.before ++ h.origin :: h.unread) ++ e :: read := by
      rw [← split, ← hr]
      conv_lhs => rw [h.events_eq]
      simp
    -- the quiet events end before the first look-up of the field
    obtain ⟨between, front, rest⟩ : ∃ between,
        h.before ++ h.origin :: h.unread = quiet ++ between ∧ later = between ++ e :: read := by
      rcases List.append_eq_append_iff.1 parts with front | ⟨between, front, rest⟩
      · exact front
      · cases between with
        | nil => exact ⟨[], by simpa using front.symm, rest.symm⟩
        | cons x between =>
          cases (List.cons.inj rest).1
          rw [unread e (by simp [front])] at first
          cases first
    rw [rest, Session.trace_append, ← Session.run_append, ← front] at none
    exact (List.append_eq_nil_iff.1 none).2

end FieldHistory

/-- If nothing has joined the graph since the first look-up of all, a field is resolved to what it
refers to now. -/
theorem Session.resolve_eq_uncached {events quiet later : List SessionEvent}
    (split : events = quiet ++ later) (unread : ∀ e ∈ quiet, e.isLookUp = false)
    (none : trace joined? (run {} quiet) later = []) (n : Nat) (name : String) :
    ((run {} events).resolve n name).2 = (run {} events).uncached n name := by
  by_cases made : n < (run {} events).cells.length
  · obtain ⟨h⟩ := FieldHistory.exists_of_lt made name
    rw [h.resolve_eq, h.uncached_eq]
    exact List.filterMap_congr fun id _ =>
      congrArg (List.lookup id) (h.known_seen split unread none).symm
  · have unmade : (run {} events).cell? n = .none := List.getElem?_eq_none_iff.2 (Nat.not_lt.1 made)
    rw [resolve, uncached, unmade]
    rfl

/-- A session answers look-ups coherently.  Each field of each element has a history.  A look-up
finds the elements that the last value of the field names, as far as the graph had them at the first
look-up after that value was set; if nothing has joined the graph since the first look-up of all,
these are what the field names now.  The identifiers of the graph are distinct and those of the
elements that joined it, in order, and its table has these elements and no other; the names of the
fields of an element are distinct, in the order in which they were first set, and those of its
table.  An element joins if it has an identifier that the graph does not have, and one that cannot
join leaves the session as it is. -/
theorem Session.run_coherent (events : List SessionEvent) :
    let s := Session.run {} events
    (∀ n name, n < s.cells.length → Nonempty (FieldHistory events n name)) ∧
    (∀ n name, ∀ h : FieldHistory events n name,
      (s.resolve n name).2 = h.value.targets.filterMap h.seen.member? ∧
      (s.resolve n name).2.map s.idOf? = (h.value.targets.filter h.seen.ids.contains).map some) ∧
    (∀ quiet later, events = quiet ++ later → (∀ e ∈ quiet, e.isLookUp = false) →
      trace joined? (run {} quiet) later = [] →
      ∀ n name, (s.resolve n name).2 = s.uncached n name) ∧
    s.ids.Nodup ∧
    s.ids.map some = (trace joined? {} events).map s.idOf? ∧
    s.ids.map s.member? = (trace joined? {} events).map some ∧
    (∀ id, (s.member? id).isSome ↔ id ∈ s.ids) ∧
    (∀ n c, s.cell? n = some c → c.order.Nodup ∧
      c.order = (trace (setName? n) {} events).eraseDups ∧
      ∀ name, (c.fields.lookup name).isSome ↔ name ∈ c.order) ∧
    (∀ n c, s.cell? n = some c → ((s.add n).2 = none ↔ c.id ≠ "" ∧ c.id ∉ s.ids)) ∧
    (∀ n e, (s.add n).2 = some e → s.step (.add n) = s) := by
  intro s
  have sound : s.Sound := sound_nil.run events
  have joined : List.Forall₂ s.Has s.ids (trace joined? {} events) :=
    forall₂_has_run (s := {}) .nil events
  refine ⟨fun n name made => FieldHistory.exists_of_lt made name,
    fun n name h => ⟨h.resolve_eq, ?_⟩, ?_, sound.distinct, ?_, ?_, sound.known,
    fun n c hc => ?_, fun n c hc => ?_, fun n e failed => ?_⟩
  · have later : h.seen.Extends s := by
      have grown := h.seen.extends_run h.read
      rwa [← h.run_eq] at grown
    rw [h.resolve_eq]
    exact later.map_idOf? (sound_nil.run _) _
  · exact fun quiet later split unread none => resolve_eq_uncached split unread none
  · rw [← List.forall₂_eq_eq_eq, List.forall₂_map_left_iff, List.forall₂_map_right_iff]
    exact joined.imp fun id n has => has.1.symm
  · rw [← List.forall₂_eq_eq_eq, List.forall₂_map_left_iff, List.forall₂_map_right_iff]
    exact joined.imp fun id n has => has.2
  · have order := order_run n events
    rw [hc] at order
    exact ⟨(sound.fields n c hc).distinct, order, (sound.fields n c hc).names⟩
  · rw [add, hc, ← sound.known]
    by_cases unnamed : c.id = ""
    · simp [unnamed]
    · by_cases known : (s.member? c.id).isSome
      · simp [unnamed, known]
      · simp [unnamed, known]
  · rw [step]
    rcases s.add_cases n with ⟨-, same⟩ | ⟨c, made, -, joins, -⟩
    · exact same
    · simp [joined?, made, failed] at joins

/-- The second element joins the graph after a field that names it has been looked up. -/
def latecomer : List SessionEvent :=
  [.make "a" "Class", .make "b" "Class", .add 0, .set 0 "x" (.refList ["b", "c", "a"]),
   .resolveFirst 0 "x", .add 1]

/-- The field is not looked up before the second element has joined. -/
def punctual : List SessionEvent :=
  [.make "a" "Class", .make "b" "Class", .set 0 "x" (.ref "b"), .add 1, .resolve 0 "x", .add 1]

theorem Session.run_coherent_latecomer :
    ((Session.run {} latecomer).resolve 0 "x").2 = [0] ∧
    ((Session.run {} latecomer).resolve 0 "x").2.map (Session.run {} latecomer).idOf? =
      [some "a"] ∧
    (Session.run {} latecomer).uncached 0 "x" = [1, 0] ∧
    ((Session.run {} punctual).resolve 0 "x").2 = (Session.run {} punctual).uncached 0 "x" ∧
    (Session.run {} punctual).uncached 0 "x" = [1] := by
  let past : FieldHistory latecomer 0 "x" :=
    { before := [.make "a" "Class", .make "b" "Class", .add 0]
      origin := .set 0 "x" (.refList ["b", "c", "a"])
      value := .refList ["b", "c", "a"]
      unread := []
      read := [.resolveFirst 0 "x", .add 1]
      events_eq := rfl
      gives := .set _ (by decide)
      unset := by decide
      quiet := by decide
      begins := by decide }
  obtain ⟨-, answers, -⟩ := run_coherent latecomer
  obtain ⟨-, -, current, -⟩ := run_coherent punctual
  refine ⟨(answers 0 "x" past).1, (answers 0 "x" past).2, by decide, ?_, by decide⟩
  exact current (punctual.take 4) (punctual.drop 4) rfl (by decide) (by decide) 0 "x"

end ModelCompiler
