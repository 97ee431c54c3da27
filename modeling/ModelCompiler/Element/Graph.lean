import ModelCompiler.Element.Basic
import ModelCompiler.Text.Quoted

/-! # The graph of the elements of a model -/

namespace ModelCompiler

/-- Elements in document order, each under an identifier of its own. -/
structure Graph where
  elements : List Element := []
  ids_nodup : (elements.map Element.id).Nodup := by simp
  ids_ne : ∀ e ∈ elements, e.id ≠ "" := by simp

/-- Why an element cannot join a graph. -/
inductive AddError where
  | noId (type : String)
  | duplicateId (id : String)
deriving DecidableEq, Repr

def AddError.message : AddError → String
  | .noId type => "element of type " ++ type ++ " has no id"
  | .duplicateId id => "duplicate element id " ++ Text.quote id

namespace Graph

/-- The graph without elements. -/
def empty : Graph := {}

instance : Inhabited Graph := ⟨empty⟩

def size (g : Graph) : Nat := g.elements.length

def get? (g : Graph) (id : String) : Option Element := g.elements.find? (·.id == id)

def contains (g : Graph) (id : String) : Bool := g.elements.any (·.id == id)

theorem contains_eq_false_iff (g : Graph) (id : String) :
    g.contains id = false ↔ id ∉ g.elements.map Element.id := by
  simp [contains]

/-- The graph with one more element at its end. -/
def push (g : Graph) (e : Element) (named : e.id ≠ "") (fresh : g.contains e.id = false) :
    Graph where
  elements := g.elements ++ [e]
  ids_nodup := by
    rw [contains_eq_false_iff] at fresh
    rw [List.map_append, List.nodup_append]
    refine ⟨g.ids_nodup, by simp, ?_⟩
    intro a ha b hb h
    simp only [List.map_cons, List.map_nil, List.mem_singleton] at hb
    subst hb h
    exact fresh ha
  ids_ne := by
    intro x hx
    rcases List.mem_append.1 hx with h | h
    · exact g.ids_ne x h
    · rw [List.mem_singleton] at h
      exact h ▸ named

@[simp] theorem elements_push (g : Graph) (e : Element) (h : e.id ≠ "")
    (h' : g.contains e.id = false) : (g.push e h h').elements = g.elements ++ [e] := rfl

/-- Adds an element whose identifier is new. -/
def add (g : Graph) (e : Element) : Except AddError Graph :=
  if h : e.id = "" then .error (.noId e.type)
  else match h' : g.contains e.id with
    | true => .error (.duplicateId e.id)
    | false => .ok (g.push e h h')

/-- The elements that a field refers to, in order; identifiers that the graph lacks are dropped. -/
def resolve (g : Graph) (e : Element) (field : String) : List Element :=
  (e.refs field).filterMap g.get?

def resolveFirst? (g : Graph) (e : Element) (field : String) : Option Element :=
  (g.resolve e field).head?

end Graph

end ModelCompiler
