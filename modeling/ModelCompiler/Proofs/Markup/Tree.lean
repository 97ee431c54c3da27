import ModelCompiler.Markup.Token

/-!
# Trees of nodes

The tokens of a well formed document are those of a list of nodes, each of them a text or an element
with the nodes inside it.  `forest` finds the nodes by going through the tokens from the last one to
the first.  Main statements: nodes are determined by their tokens, and the tokens of a document that
is well formed to its end come from nodes.
-/

namespace ModelCompiler.Markup

/-- A text, or an element with all that stands between its two tags. -/
inductive Node where
  | text (content : String)
  | element (tag : Name) (attributes : List Attribute) (inner : List Node)
deriving Repr

namespace Node

/-- What holds of a node whenever it holds of the nodes inside it holds of all nodes. -/
@[elab_as_elim]
theorem inductionOn {P : Node → Prop} (text : ∀ content, P (.text content))
    (element : ∀ tag attributes inner, (∀ n ∈ inner, P n) → P (.element tag attributes inner))
    (n : Node) : P n := by
  refine Node.rec (motive_1 := P) (motive_2 := fun inner => ∀ n ∈ inner, P n) text element ?_ ?_ n
  · exact List.forall_mem_nil P
  · intro n ns hn hns
    exact List.forall_mem_cons.2 ⟨hn, hns⟩

mutual

def tokens : Node → List Token
  | .text content => [.text content]
  | .element tag attributes inner => .opening tag attributes :: tokensOf inner ++ [.closing tag]

/-- The tokens of nodes that follow one another. -/
def tokensOf : List Node → List Token
  | [] => []
  | n :: ns => n.tokens ++ tokensOf ns

end

@[simp] theorem tokens_text (content : String) : (text content).tokens = [.text content] := by
  rw [tokens]

@[simp] theorem tokens_element (tag : Name) (attributes : List Attribute) (inner : List Node) :
    (element tag attributes inner).tokens =
      .opening tag attributes :: tokensOf inner ++ [.closing tag] := by
  rw [tokens]

@[simp] theorem tokensOf_nil : tokensOf [] = [] := by
  rw [tokensOf]

@[simp] theorem tokensOf_cons (n : Node) (ns : List Node) :
    tokensOf (n :: ns) = n.tokens ++ tokensOf ns := by
  rw [tokensOf]

end Node

open Node (tokensOf)

/-! ## From tokens to nodes -/

/-- Nodes, and after them the closing tags of the elements around them, each with the nodes that
follow it. -/
structure Layers where
  inner : List Node := []
  outer : List (Name × List Node) := []

namespace Layers

/-- The layers with one more token in front of them. -/
def graft : Token → Layers → Layers
  | .text content, l => { l with inner := .text content :: l.inner }
  | .closing tag, l => { outer := (tag, l.inner) :: l.outer }
  | .opening tag attributes, ⟨inner, (_, ns) :: outer⟩ =>
    { inner := .element tag attributes inner :: ns, outer }
  | .opening _ _, ⟨inner, []⟩ => { inner }

def tokens (l : Layers) : List Token :=
  tokensOf l.inner ++ l.outer.flatMap fun p => .closing p.1 :: tokensOf p.2

end Layers

/-- The layers of the tokens from some place in a document on. -/
def layers (ts : List Token) : Layers := ts.foldr Layers.graft {}

/-- The nodes with some tokens. -/
def forest (ts : List Token) : List Node := (layers ts).inner

theorem foldr_graft_of_forall_mem {ns : List Node}
    (h : ∀ n ∈ ns, ∀ l, n.tokens.foldr Layers.graft l = { l with inner := n :: l.inner })
    (l : Layers) : (tokensOf ns).foldr Layers.graft l = { l with inner := ns ++ l.inner } := by
  induction ns with
  | nil => rfl
  | cons n ns ih =>
    obtain ⟨hn, hns⟩ := List.forall_mem_cons.1 h
    rw [Node.tokensOf_cons, List.foldr_append, ih hns, hn]
    rfl

/-- The tokens of a node put the node in front. -/
theorem foldr_graft_tokens (n : Node) (l : Layers) :
    n.tokens.foldr Layers.graft l = { l with inner := n :: l.inner } := by
  induction n using Node.inductionOn generalizing l with
  | text content => rfl
  | element tag attributes inner ih =>
    have within := foldr_graft_of_forall_mem ih (Layers.graft (.closing tag) l)
    rw [Node.tokens_element, List.cons_append, List.foldr_cons, List.foldr_append, List.foldr_cons,
      List.foldr_nil, within]
    simp [Layers.graft]

theorem forest_tokensOf (ns : List Node) : forest (tokensOf ns) = ns := by
  rw [forest, layers, foldr_graft_of_forall_mem fun n _ => foldr_graft_tokens n]
  exact List.append_nil ns

/-- Nodes are determined by their tokens. -/
theorem tokensOf_injective : Function.Injective tokensOf :=
  Function.LeftInverse.injective forest_tokensOf

/-- Tokens that close the open tags, and no other, are those of their layers. -/
theorem layers_of_nesting? {openTags : List Name} {ts : List Token}
    (h : nesting? openTags ts = some []) :
    (layers ts).outer.map Prod.fst = openTags ∧ (layers ts).tokens = ts := by
  induction ts generalizing openTags with
  | nil =>
    cases Option.some.inj h
    exact ⟨rfl, rfl⟩
  | cons t ts ih =>
    cases t with
    | text content =>
      obtain ⟨tags, same⟩ := ih h
      exact ⟨tags, congrArg (List.cons (Token.text content)) same⟩
    | closing tag =>
      cases openTags with
      | nil => cases h
      | cons last others =>
        rw [nesting?] at h
        split at h
        · rename_i here
          obtain ⟨tags, same⟩ := ih h
          refine ⟨?_, congrArg (List.cons (Token.closing tag)) same⟩
          rw [here, ← tags]
          rfl
        · cases h
    | opening tag attributes =>
      obtain ⟨tags, same⟩ := @ih (tag :: openTags) h
      have front : layers (.opening tag attributes :: ts) =
          (layers ts).graft (.opening tag attributes) := rfl
      rw [front]
      generalize layers ts = l at tags same
      obtain ⟨inner, _ | ⟨⟨closed, ns⟩, outer⟩⟩ := l
      · cases tags
      · obtain ⟨rfl, rfl⟩ := List.cons.inj tags
        refine ⟨rfl, ?_⟩
        rw [← same]
        simp [Layers.graft, Layers.tokens]

/-- Well nested tokens are those of their nodes. -/
theorem tokensOf_forest {ts : List Token} (h : nesting? [] ts = some []) :
    tokensOf (forest ts) = ts := by
  obtain ⟨tags, same⟩ := layers_of_nesting? h
  have none : (layers ts).outer = [] := List.map_eq_nil_iff.1 tags
  rw [Layers.tokens, none] at same
  rw [forest, ← List.append_nil (tokensOf _)]
  exact same

/-! ## The nodes of a document -/

theorem nesting?_append {openTags between : List Name} {ts us : List Token}
    (h : nesting? openTags ts = some between) :
    nesting? openTags (ts ++ us) = nesting? between us := by
  induction ts generalizing openTags with
  | nil =>
    cases Option.some.inj h
    rfl
  | cons t ts ih =>
    cases t with
    | text content => exact ih h
    | opening tag attributes => exact ih h
    | closing tag =>
      cases openTags with
      | nil => cases h
      | cons last others =>
        rw [nesting?] at h
        split at h
        · rename_i here
          rw [List.cons_append, nesting?, if_pos here]
          exact ih h
        · cases h

/-- A text that is scanned to its end closes all tags that are open. -/
theorem nesting?_scanFrom {fuel : Nat} {openTags : List Name} {cs : List Char}
    (h : (scanFrom fuel openTags cs).complete = true) :
    nesting? openTags (scanFrom fuel openTags cs).tokens = some [] := by
  fun_induction scanFrom fuel openTags cs with
  | case1 => cases h
  | case2 fuel openTags =>
    rw [List.isEmpty_iff.1 h]
    rfl
  | case3 => cases h
  | case4 => cases h
  | case5 fuel openTags c cs tokens rest front between nested more ih =>
    rw [nesting?_append nested]
    exact ih h

/-- The tokens of a well formed document are those of its nodes. -/
theorem tokensOf_forest_scan {document : String} (h : (scan document).complete = true) :
    tokensOf (forest (scan document).tokens) = (scan document).tokens :=
  tokensOf_forest (nesting?_scanFrom h)

end ModelCompiler.Markup
