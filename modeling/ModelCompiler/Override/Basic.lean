import ModelCompiler.Text.Blank
import ModelCompiler.Text.Pieces
import ModelCompiler.Text.Quoted

/-! # Manual overrides -/

namespace ModelCompiler

/-- A type and a default given by hand. -/
structure AttributeOverride where
  type : String := ""
  default? : Option String := none
deriving DecidableEq, Repr

/-- What an override file says, under qualified names `<Class>.<property>`. -/
structure Overrides where
  version : String := ""
  derived : List String := []
  attributes : List (String × AttributeOverride) := []
deriving DecidableEq, Repr

/-- Whether a name without the blanks around it is a class and a property with one dot between. -/
def isQualified (name : String) : Bool :=
  match Text.cut? '.' (Text.trim name.toList) with
  | none => false
  | some (cls, prop) => !cls.isEmpty && !prop.isEmpty && !prop.contains '.'

/-- A name that is not qualified, and where it stands. -/
inductive OverrideFault where
  | derives (name : String)
  | attributes (name : String)
deriving DecidableEq, Repr

def OverrideFault.message : OverrideFault → String
  | .derives name => "derives: " ++ Text.quote name ++ formText
  | .attributes name => "attributes: " ++ Text.quote name ++ formText
where
  formText : String := " is not of the form <Class>.<property>"

namespace Overrides

/-- The first name that is not qualified, those of derived properties first. -/
def fault? (f : Overrides) : Option OverrideFault :=
  match f.derived.find? fun n => !isQualified n with
  | some n => some (.derives n)
  | none => (f.attributes.find? fun p => !isQualified p.1).map fun p => .attributes p.1

/-- Version 1 unless the file says otherwise. -/
def withDefaults (f : Overrides) : Overrides :=
  { f with version := if f.version = "" then "1" else f.version }

/-- The file after it was asked whether some properties are derived: the first question fills in
the defaults. -/
def consulted (f : Overrides) (questions : List String) : Overrides :=
  if questions.isEmpty then f else f.withDefaults

/-- Whether a qualified property is declared derived. -/
def derives (f : Overrides) (qualified : String) : Bool :=
  (f.derived.map Text.trimmed).contains qualified

def attribute? (f : Overrides) (qualified : String) : Option AttributeOverride :=
  f.attributes.lookup qualified

end Overrides

/-- What resolution asks about qualified properties. -/
structure Policy where
  derives : String → Bool
  attribute? : String → Option AttributeOverride

namespace Policy

/-- The policy that overrides nothing. -/
def none : Policy := ⟨fun _ => false, fun _ => .none⟩

instance : Inhabited Policy := ⟨none⟩

def ofOverrides (f : Overrides) : Policy := ⟨f.derives, f.attribute?⟩

end Policy

end ModelCompiler
