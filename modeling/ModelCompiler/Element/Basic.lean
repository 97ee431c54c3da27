import ModelCompiler.Text.Blank
import ModelCompiler.Text.Case

/-! # Elements and their fields -/

namespace ModelCompiler

/-- What a field of an element holds. -/
inductive Field where
  | absent
  | scalar (text : String)
  | ref (id : String)
  | refList (ids : List String)
deriving DecidableEq, Repr

namespace Field

/-- The words for the kinds of content. -/
def labels : List String := ["absent", "scalar", "ref", "reflist"]

def isAbsent : Field → Bool
  | .absent => true
  | _ => false

def text : Field → String
  | .scalar s => s
  | _ => ""

/-- The identifiers that the field refers to. -/
def targets : Field → List String
  | .ref id => [id]
  | .refList ids => ids
  | _ => []

end Field

/-- A node of a model: an identifier, a type and fields in the order in which they were first
set. -/
structure Element where
  id : String
  type : String
  fields : List (String × Field) := []
deriving DecidableEq, Repr

/-- Puts a value under a key: in its place if the key is there, else at the end. -/
def putField (name : String) (f : Field) : List (String × Field) → List (String × Field)
  | [] => [(name, f)]
  | (n, g) :: rest => if n = name then (n, f) :: rest else (n, g) :: putField name f rest

namespace Element

def field (e : Element) (name : String) : Field := (e.fields.lookup name).getD .absent

def set (e : Element) (name : String) (f : Field) : Element :=
  { e with fields := putField name f e.fields }

def has (e : Element) (name : String) : Bool := !(e.field name).isAbsent

/-- The text of a scalar field; any other field has none. -/
def text (e : Element) (name : String) : String := (e.field name).text

def name (e : Element) : String := e.text "name"

/-- Whether a scalar field says yes. -/
def flag (e : Element) (name : String) : Bool :=
  let s := Text.lowered (Text.trimmed (e.text name))
  s == "1" || s == "true"

def refs (e : Element) (name : String) : List String := (e.field name).targets

/-- The first identifier that a field refers to; empty when there is none. -/
def firstRef (e : Element) (name : String) : String := ((e.refs name).head?).getD ""

@[simp] theorem id_set (e : Element) (name : String) (f : Field) : (e.set name f).id = e.id := rfl
@[simp] theorem type_set (e : Element) (name : String) (f : Field) :
    (e.set name f).type = e.type := rfl

end Element

theorem lookup_putField (name n : String) (f : Field) (fs : List (String × Field)) :
    (putField name f fs).lookup n = if n = name then some f else fs.lookup n := by
  induction fs with
  | nil =>
    by_cases h : n = name
    · simp [putField, h]
    · simp [putField, List.lookup_cons, beq_eq_false_iff_ne.2 h, h]
  | cons p rest ih =>
    obtain ⟨m, g⟩ := p
    by_cases hm : m = name
    · subst hm
      by_cases hn : n = m
      · simp [putField, hn]
      · simp [putField, List.lookup_cons, beq_eq_false_iff_ne.2 hn, hn]
    · by_cases hn : n = m
      · subst hn
        simp [putField, hm]
      · simp [putField, hm, List.lookup_cons, beq_eq_false_iff_ne.2 hn, ih]

@[simp] theorem Element.field_set (e : Element) (name n : String) (f : Field) :
    (e.set name f).field n = if n = name then f else e.field n := by
  simp only [Element.field, Element.set, lookup_putField]
  split <;> rfl

end ModelCompiler
