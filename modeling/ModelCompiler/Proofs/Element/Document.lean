import ModelCompiler.Element.Document
import ModelCompiler.Proofs.Element.Fields
import ModelCompiler.Proofs.Markup.Tree

/-!
# What a document describes

A document is read token by token, with a state for each kind of place inside it.  Its meaning is
given by its tree instead: every child of the root is an element, every child of that which holds a
value sets a field, and what else there is, at any depth, means nothing.  Main statement: reading a
well formed document gives the elements that the children of its root describe, in order, unless one
of them has no identifier or that of an earlier one.
-/

namespace ModelCompiler

open Markup
open Markup.Node (tokensOf)

/-! ## The meaning of nodes -/

namespace Markup.Node

def text? : Node → Option String
  | .text content => some content
  | .element .. => none

/-- The identifier that a node refers to, if it is a reference. -/
def reference? : Node → Option String
  | .text _ => none
  | .element tag attributes _ =>
    if tag.base = "ref" then some (valueOf "refid" attributes) else none

/-- What a child of a field sets the field to. -/
def value? : Node → Option Field
  | .text _ => none
  | .element tag attributes inner =>
    match tag.base with
    | "val" => some (.scalar (String.join (inner.filterMap text?)))
    | "ref" => some (.ref (valueOf "refid" attributes))
    | "reflist" => some (.refList (inner.filterMap reference?))
    | _ => none

/-- The field that a child of an element sets, and its value, which is that of its last child that
has one. -/
def setting? : Node → Option (String × Field)
  | .text _ => none
  | .element tag _ inner => (inner.filterMap value?).getLast?.map fun v => (tag.base, v)

/-- The element that a child of the root describes: the fields are in the order of the first
settings of their names, and each has the value of the last one. -/
def element? : Node → Option Element
  | .text _ => none
  | .element tag attributes inner =>
    let settings := inner.filterMap setting?
    some
      { id := valueOf "id" attributes
        type := tag.base
        fields := (settings.map Prod.fst).eraseDups.map fun name =>
          (name, (Element.lastValue? settings name).getD .absent) }

/-- The nodes inside the root, which is the first element of a document. -/
def root? : List Node → Option (List Node)
  | [] => none
  | .text _ :: ns => root? ns
  | .element _ _ inner :: _ => some inner

end Markup.Node

/-! ## Reading nodes -/

namespace Reading

/-- Some tokens take a reader from one state to another, whatever follows them. -/
def Reads (r : Reading) (ts : List Token) (s : Reading) : Prop :=
  ∀ complete rest, run complete r (ts ++ rest) = run complete s rest

namespace Reads

variable {r s u : Reading} {ts us : List Token}

theorem refl (r : Reading) : Reads r [] r := fun _ _ => rfl

theorem trans (h : Reads r ts s) (k : Reads s us u) : Reads r (ts ++ us) u := by
  intro complete rest
  rw [List.append_assoc, h, k]

/-- A token inside the document that is read without a fault. -/
theorem token {g : Graph} {opened : Opened} {t : Token}
    (h : (inside g opened).step t = .ok s) : Reads (inside g opened) [t] s := by
  intro complete rest
  rw [List.singleton_append, run, h]
  exact fun _ => nofun

/-- An element is read from its opening tag over the nodes inside it to its closing tag. -/
theorem element {g : Graph} {opened within : Opened} {tag : Name}
    {attributes : List Markup.Attribute} {inner : List Node}
    (first : (inside g opened).step (.opening tag attributes) = .ok r)
    (middle : Reads r (tokensOf inner) (inside g within))
    (last : (inside g within).step (.closing tag) = .ok s) :
    Reads (inside g opened) (Node.element tag attributes inner).tokens s := by
  rw [Node.tokens_element]
  exact ((token first).trans middle).trans (token last)

end Reads

end Reading

/-! ## The children of a field -/

namespace Content

/-- What is read after some nodes inside a child of a field. -/
def after (c : Content) (ns : List Node) : Content :=
  match c with
  | .value text 0 => .value (text ++ String.join (ns.filterMap Node.text?)) 0
  | .references ids 0 => .references (ids ++ ns.filterMap Node.reference?) 0
  | c => c

theorem after_nil (c : Content) : c.after [] = c := by
  unfold after
  split <;> simp

theorem after_append (c : Content) (ns ms : List Node) :
    c.after (ns ++ ms) = (c.after ns).after ms := by
  obtain ⟨text, _ | d⟩ | ⟨id, d⟩ | ⟨ids, _ | d⟩ | d := c
  all_goals simp [after, String.join_append, String.append_assoc]

/-- What is skipped changes nothing. -/
theorem after_of_depth {c : Content} (h : c.depth ≠ 0) (ns : List Node) : c.after ns = c := by
  obtain ⟨text, _ | d⟩ | ⟨id, d⟩ | ⟨ids, _ | d⟩ | d := c
  all_goals first | rfl | exact absurd rfl h

@[simp] theorem depth_after (c : Content) (ns : List Node) : (c.after ns).depth = c.depth := by
  obtain ⟨text, _ | d⟩ | ⟨id, d⟩ | ⟨ids, _ | d⟩ | d := c <;> rfl

theorem depth_enter (c : Content) (tag : Name) (attributes : List Markup.Attribute) :
    (c.enter tag attributes).depth = c.depth + 1 := by
  obtain ⟨text, d⟩ | ⟨id, d⟩ | ⟨ids, _ | d⟩ | d := c
  case references.zero =>
    rw [enter]
    split <;> rfl
  all_goals rfl

theorem append_eq_after (c : Content) (text : String) : c.append text = c.after [.text text] := by
  obtain ⟨text, _ | d⟩ | ⟨id, d⟩ | ⟨ids, _ | d⟩ | d := c
  all_goals simp [append, after, Node.text?, Node.reference?]

/-- An element inside counts from its opening tag on. -/
theorem shallower_enter (c : Content) (tag : Name) (attributes : List Markup.Attribute)
    (inner : List Node) :
    (c.enter tag attributes).shallower = c.after [.element tag attributes inner] := by
  obtain ⟨text, _ | d⟩ | ⟨id, d⟩ | ⟨ids, _ | d⟩ | d := c
  case references.zero =>
    by_cases h : tag.base = "ref"
    · simp [enter, after, Node.reference?, h, shallower]
    · simp [enter, after, Node.reference?, h, shallower, deeper]
  all_goals simp [enter, after, List.filterMap, Node.text?, shallower, deeper]

/-- A child of a field sets it to its value. -/
theorem field?_after_start (tag : Name) (attributes : List Markup.Attribute) (inner : List Node) :
    ((start tag attributes).after inner).field? = (Node.element tag attributes inner).value? := by
  unfold start Node.value?
  split
  case h_4 => simp [after, field?]
  all_goals
    rename_i base
    simp [base, after, field?]

end Content

namespace Reading

open Content

variable {g : Graph} {e : Element} {f : OpenField}

/-- Nodes are read one after the other. -/
theorem reads_tokensOf {α : Type} (state : α → Reading) (step : α → List Node → α)
    {ns : List Node} (done : ∀ a, step a [] = a)
    (next : ∀ a n ms, step a (n :: ms) = step (step a [n]) ms)
    (each : ∀ n ∈ ns, ∀ a, Reads (state a) n.tokens (state (step a [n]))) (a : α) :
    Reads (state a) (tokensOf ns) (state (step a ns)) := by
  induction ns generalizing a with
  | nil =>
    rw [done]
    exact Reads.refl _
  | cons n ns ih =>
    obtain ⟨hn, hns⟩ := List.forall_mem_cons.1 each
    rw [next, Node.tokensOf_cons]
    exact (hn a).trans (ih hns _)

/-- Nodes inside a child of a field, at whatever depth. -/
theorem reads_inside_content (g : Graph) (e : Element) (f : OpenField) (n : Node) (c : Content) :
    Reads (.inside g (.content e f c)) n.tokens (.inside g (.content e f (c.after [n]))) := by
  induction n using Node.inductionOn generalizing c with
  | text content =>
    refine Reads.token ?_
    rw [← append_eq_after]
    rfl
  | element tag attributes inner ih =>
    have deep := depth_enter c tag attributes
    have skipped : Reads (.inside g (.content e f (c.enter tag attributes))) (tokensOf inner)
        (.inside g (.content e f (c.enter tag attributes))) := by
      have within := reads_tokensOf (fun c => .inside g (.content e f c)) after after_nil
        (fun c n ms => after_append c [n] ms) ih (c.enter tag attributes)
      rwa [after_of_depth (by omega)] at within
    refine Reads.element rfl skipped ?_
    rw [← shallower_enter]
    exact if_neg (by omega)

theorem reads_content (c : Content) (ns : List Node) :
    Reads (.inside g (.content e f c)) (tokensOf ns) (.inside g (.content e f (c.after ns))) :=
  reads_tokensOf (fun c => .inside g (.content e f c)) after after_nil
    (fun c n ms => after_append c [n] ms) (fun n _ => reads_inside_content g e f n) c

/-! ## The fields of an element -/

/-- A field after some of its children: the last of them that has a value counts. -/
def setBy (f : OpenField) (ns : List Node) : OpenField :=
  { f with value := (ns.filterMap Node.value?).getLast?.or f.value }

theorem reads_inside_field (n : Node) (f : OpenField) :
    Reads (.inside g (.field e f)) n.tokens (.inside g (.field e (setBy f [n]))) := by
  cases n with
  | text content => exact Reads.token rfl
  | element tag attributes inner =>
    refine Reads.element rfl (reads_content (.start tag attributes) inner) ?_
    have shallow : ((start tag attributes).after inner).depth = 0 := by
      rw [depth_after, start]
      split <;> rfl
    refine (if_pos shallow).trans ?_
    rw [closeContent, field?_after_start, setBy, List.filterMap_cons]
    cases (Node.element tag attributes inner).value? <;> rfl

theorem reads_field (f : OpenField) (ns : List Node) :
    Reads (.inside g (.field e f)) (tokensOf ns) (.inside g (.field e (setBy f ns))) := by
  refine reads_tokensOf (fun f => .inside g (.field e f)) setBy (fun _ => rfl) ?_
    (fun n _ => reads_inside_field n) f
  intro f n ms
  simp only [setBy, List.filterMap_cons]
  cases n.value? with
  | none => rfl
  | some v =>
    rw [List.getLast?_cons]
    cases (ms.filterMap Node.value?).getLast? <;> rfl

theorem reads_inside_element (n : Node) (e : Element) :
    Reads (.inside g (.element e)) n.tokens
      (.inside g (.element (e.setAll ([n].filterMap Node.setting?)))) := by
  cases n with
  | text content => exact Reads.token rfl
  | element tag attributes inner =>
    refine Reads.element rfl (reads_field { name := tag.base } inner) ?_
    have closed : closeField e (setBy { name := tag.base } inner) =
        e.setAll ([Node.element tag attributes inner].filterMap Node.setting?) := by
      rw [closeField, setBy, List.filterMap_cons, Node.setting?, Option.or_none]
      cases (inner.filterMap Node.value?).getLast? <;> rfl
    rw [← closed]
    rfl

theorem reads_element (e : Element) (ns : List Node) :
    Reads (.inside g (.element e)) (tokensOf ns)
      (.inside g (.element (e.setAll (ns.filterMap Node.setting?)))) := by
  refine reads_tokensOf (fun e => .inside g (.element e))
    (fun e ns => e.setAll (ns.filterMap Node.setting?)) (fun _ => rfl) ?_
    (fun n _ => reads_inside_element n) e
  intro e n ms
  rw [← List.singleton_append, List.filterMap_append, Element.setAll, List.foldl_append]
  rfl

/-- The element that a child of the root is read as. -/
theorem element?_eq_setAll (tag : Name) (attributes : List Markup.Attribute) (inner : List Node) :
    (Node.element tag attributes inner).element? = some
      (({ id := valueOf "id" attributes, type := tag.base } : Element).setAll
        (inner.filterMap Node.setting?)) := by
  rw [Element.setAll_of_bare rfl]
  rfl

end Reading

/-! ## The elements of a document -/

/-- Elements that can be in one graph. -/
def Identified (es : List Element) : Prop :=
  (∀ e ∈ es, e.id ≠ "") ∧ (es.map Element.id).Nodup

/-- None of them stops at the ones before it. -/
theorem Identified.next {before after : List Element} {e : Element}
    (h : Identified (before ++ e :: after)) : e.id ≠ "" ∧ e.id ∉ before.map Element.id := by
  obtain ⟨named, distinct⟩ := h
  rw [List.map_append, List.map_cons, List.nodup_append] at distinct
  exact ⟨named e (by simp), fun known => distinct.2.2 _ known _ List.mem_cons_self rfl⟩

namespace Graph

theorem identified (g : Graph) : Identified g.elements := ⟨g.ids_ne, g.ids_nodup⟩

/-- What adding an element can lead to. -/
theorem add_cases (g : Graph) (e : Element) :
    (e.id = "" ∧ g.add e = .error (.noId e.type)) ∨
    (e.id ∈ g.elements.map Element.id ∧ g.add e = .error (.duplicateId e.id)) ∨
    ∃ g', g.add e = .ok g' ∧ g'.elements = g.elements ++ [e] := by
  by_cases none : e.id = ""
  · exact .inl ⟨none, dif_pos none⟩
  · right
    rw [add, dif_neg none]
    split
    · rename_i known
      refine .inl ⟨?_, rfl⟩
      by_contra fresh
      rw [← contains_eq_false_iff, known] at fresh
      cases fresh
    · exact .inr ⟨_, rfl, rfl⟩

/-- Elements join one by one, up to the first that cannot. -/
theorem foldlM_add (g : Graph) (es : List Element) :
    (∃ g', es.foldlM add g = .ok g' ∧ g'.elements = g.elements ++ es) ∨
    ∃ before e after, es = before ++ e :: after ∧ Identified (g.elements ++ before) ∧
      ((e.id = "" ∧ es.foldlM add g = .error (.noId e.type)) ∨
        (e.id ∈ (g.elements ++ before).map Element.id ∧
          es.foldlM add g = .error (.duplicateId e.id))) := by
  induction es generalizing g with
  | nil => exact .inl ⟨g, rfl, (List.append_nil _).symm⟩
  | cons e es ih =>
    rw [List.foldlM_cons]
    rcases g.add_cases e with ⟨none, failed⟩ | ⟨known, failed⟩ | ⟨g', joined, elements⟩
    · refine .inr ⟨[], e, es, rfl, ?_, .inl ⟨none, ?_⟩⟩
      · rw [List.append_nil]
        exact g.identified
      · rw [failed]
        rfl
    · refine .inr ⟨[], e, es, rfl, ?_, .inr ⟨?_, ?_⟩⟩
      · rw [List.append_nil]
        exact g.identified
      · rwa [List.append_nil]
      · rw [failed]
        rfl
    · rw [joined]
      change (∃ g'', es.foldlM add g' = .ok g'' ∧ _) ∨ ∃ before x after, _ ∧ _ ∧
        ((_ ∧ es.foldlM add g' = _) ∨ (_ ∧ es.foldlM add g' = _))
      rcases ih g' with ⟨g'', all, gained⟩ | ⟨before, x, after, rfl, kept, failed⟩
      · refine .inl ⟨g'', all, ?_⟩
        rw [gained, elements, List.append_assoc]
        rfl
      · rw [elements, List.append_assoc] at kept failed
        exact .inr ⟨e :: before, x, after, rfl, kept, failed⟩

end Graph

namespace Reading

/-- The children of the root are read as the elements that they describe, and what follows the root
is not read. -/
theorem run_root (complete : Bool) (g : Graph) (ns : List Node) (tag : Name) (rest : List Token) :
    run complete (.inside g .root) (tokensOf ns ++ .closing tag :: rest) =
      ((ns.filterMap Node.element?).foldlM Graph.add g).mapError .add := by
  induction ns generalizing g with
  | nil => cases rest <;> rfl
  | cons n ns ih =>
    rw [Node.tokensOf_cons, List.append_assoc]
    cases n with
    | text content => exact ih g
    | element label attributes inner =>
      let bare : Element := { id := valueOf "id" attributes, type := label.base }
      have opened : Reads (.inside g .root) (.opening label attributes :: tokensOf inner)
          (.inside g (.element (bare.setAll (inner.filterMap Node.setting?)))) :=
        (Reads.token rfl).trans (reads_element _ inner)
      rw [Node.tokens_element, List.append_assoc, opened, List.filterMap_cons, element?_eq_setAll]
      simp only [List.singleton_append, List.foldlM_cons]
      rw [run]
      · simp only [step, closing]
        cases g.add _ with
        | ok g' => exact ih g'
        | error e => rfl
      · exact fun _ => nofun

/-- A document is read as the elements that the children of its root describe. -/
theorem run_tokensOf (complete : Bool) (ns : List Node) :
    run complete .before (tokensOf ns) =
      match Node.root? ns with
      | some inner => ((inner.filterMap Node.element?).foldlM Graph.add .empty).mapError .add
      | none => .error (if complete then .empty else .malformed .outside) := by
  induction ns with
  | nil => rfl
  | cons n ns ih =>
    rw [Node.tokensOf_cons]
    cases n with
    | text content => exact ih
    | element tag attributes inner =>
      rw [Node.tokens_element, List.append_assoc]
      exact run_root complete .empty inner tag (tokensOf ns)

end Reading

/-- A well formed document with a root describes a graph by its tree, which is determined by the
tokens of the document.  The elements of the graph are those that the children of the root describe,
in order.  If they cannot all be in one graph, reading fails at the first that has no identifier or
that of an earlier one. -/
theorem ofDocument_of_tree (document : String) (wellFormed : (scan document).complete = true) :
    ∃ ns, (∀ others, tokensOf others = (scan document).tokens ↔ others = ns) ∧
      ∀ inner, Node.root? ns = some inner →
        let described := inner.filterMap Node.element?
        (Identified described →
          ∃ g, Graph.ofDocument document = .ok g ∧ g.elements = described) ∧
        (¬ Identified described →
          ∃ before e after, described = before ++ e :: after ∧ Identified before ∧
            ((e.id = "" ∧ Graph.ofDocument document = .error (.add (.noId e.type))) ∨
              (e.id ∈ before.map Element.id ∧
                Graph.ofDocument document = .error (.add (.duplicateId e.id))))) := by
  have tree := tokensOf_forest_scan wellFormed
  refine ⟨forest (scan document).tokens, fun others => ⟨?_, ?_⟩, ?_⟩
  · intro same
    exact tokensOf_injective (same.trans tree.symm)
  · rintro rfl
    exact tree
  · intro inner root described
    have read : Graph.ofDocument document =
        (described.foldlM Graph.add .empty).mapError .add := by
      have run := Reading.run_tokensOf (scan document).complete (forest (scan document).tokens)
      rw [tree, root] at run
      exact run
    rw [read]
    rcases Graph.foldlM_add .empty described with
      ⟨g, all, elements⟩ | ⟨before, e, after, split, kept, failed⟩
    · have found : g.elements = described := elements
      refine ⟨fun _ => ⟨g, by rw [all]; rfl, found⟩, fun wrong => ?_⟩
      exact absurd (found ▸ g.identified) wrong
    · constructor
      · intro fine
        rw [split] at fine
        rcases failed with ⟨none, -⟩ | ⟨known, -⟩
        · exact absurd none fine.next.1
        · exact absurd known fine.next.2
      · intro _
        refine ⟨before, e, after, split, kept, ?_⟩
        rcases failed with ⟨none, failed⟩ | ⟨known, failed⟩
        · exact .inl ⟨none, by rw [failed]; rfl⟩
        · exact .inr ⟨known, by rw [failed]; rfl⟩

/-- A document with a reference inside what is skipped and a field that is set twice. -/
def patchwork : String :=
  "<m>;<C id='a'><n><val>A</val></n><o><reflist><ref refid='1'/><x><ref/></x></reflist></o>" ++
  "<n><val>B<i>c</i>D</val><u/></n></C></m>"

/-- The nodes inside the root of the patchwork. -/
def patches : List Node :=
  let tag (base : String) (inner : List Node) : Node := .element { base } [] inner
  [.text ";",
   .element { base := "C" } [⟨{ base := "id" }, "a"⟩]
    [tag "n" [tag "val" [.text "A"]],
     tag "o" [tag "reflist"
      [.element { base := "ref" } [⟨{ base := "refid" }, "1"⟩] [], tag "x" [tag "ref" []]]],
     tag "n" [tag "val" [.text "B", tag "i" [.text "c"], .text "D"], tag "u" []]]]

theorem ofDocument_of_tree_patchwork :
    (scan patchwork).complete = true ∧
    ∃ g, Graph.ofDocument patchwork = .ok g ∧
      g.elements = [⟨"a", "C", [("n", .scalar "BD"), ("o", .refList ["1"])]⟩] := by
  have scanned : scan patchwork =
      { tokens := tokensOf [.element { base := "m" } [] patches], complete := true } := by
    decide +kernel
  have complete : (scan patchwork).complete = true := by rw [scanned]
  obtain ⟨ns, only, described⟩ := ofDocument_of_tree patchwork complete
  have tree : [Node.element { base := "m" } [] patches] = ns := (only _).1 (by rw [scanned])
  obtain ⟨g, read, elements⟩ :=
    (described patches (tree ▸ rfl)).1 ⟨by decide +kernel, by decide +kernel⟩
  refine ⟨complete, g, read, ?_⟩
  rw [elements]
  decide +kernel

end ModelCompiler
