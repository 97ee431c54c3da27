import ModelCompiler.Model.Conventions
import ModelCompiler.Settings.Environment
import ModelCompiler.Source.File
import ModelCompiler.Text.Quoted

/-! # Settings of a run -/

namespace ModelCompiler

/-- The truth value that a text spells. -/
def truthValue? (s : String) : Option Bool :=
  if ["1", "t", "T", "TRUE", "true", "True"].contains s then some true
  else if ["0", "f", "F", "FALSE", "false", "False"].contains s then some false
  else none

/-- What a run reads, what it writes and where to. -/
structure Settings where
  model : String := ""
  out : String := "-"
  overrides : String := ""
  package : String := ({} : Source.Target).package
  runtime : String := ({} : Source.Target).runtime
  strict : Bool := false
  /-- Whether the ends of associations are listed. -/
  dump : Bool := false
  /-- Whether infos are printed. -/
  verbose : Bool := false
deriving DecidableEq, Repr

/-- A variable that holds no truth value. -/
structure SettingsError where
  name : String
  value : String
deriving DecidableEq, Repr

def SettingsError.message (e : SettingsError) : String :=
  e.name ++ ": invalid boolean " ++ Text.quote e.value

/-- What a run lacks. -/
inductive Lack where
  | model
  | package
  | runtime
deriving DecidableEq, Repr

def Lack.message : Lack → String
  | .model => "a model file is required"
  | .package => "package name must not be empty"
  | .runtime => "runtime import path must not be empty"

/-- Where generated source goes. -/
inductive Destination where
  | stdout
  | file (path : String)
deriving DecidableEq, Repr

namespace Settings

/-- The variables that settings are taken from. -/
def variableNames : List String :=
  ["UMLGEN_MODEL", "UMLGEN_OUT", "UMLGEN_OVERRIDES", "UMLGEN_PACKAGE", "UMLGEN_RUNTIME",
   "UMLGEN_STRICT"]

/-- The value of a variable: the one of the process, then the one of the files, then a default. An
empty value counts for none. -/
def choose (process files : Environment) (name default : String) : String :=
  if process.value name ≠ "" then process.value name
  else if files.value name ≠ "" then files.value name
  else default

/-- The settings that the environment of the process and the environment files give. -/
def load (process files : Environment) : Except SettingsError Settings :=
  let get (name default : String) : String := choose process files name default
  let base : Settings := {}
  let strict := get "UMLGEN_STRICT" ""
  let settings : Settings :=
    { model := get "UMLGEN_MODEL" base.model
      out := get "UMLGEN_OUT" base.out
      overrides := get "UMLGEN_OVERRIDES" base.overrides
      package := get "UMLGEN_PACKAGE" base.package
      runtime := get "UMLGEN_RUNTIME" base.runtime }
  if strict = "" then .ok settings
  else match truthValue? strict with
    | some b => .ok { settings with strict := b }
    | none => .error ⟨"UMLGEN_STRICT", strict⟩

/-- What is lacking for a run, if anything is. -/
def lack? (s : Settings) : Option Lack :=
  if s.model = "" then some .model
  else if s.package = "" then some .package
  else if s.runtime = "" then some .runtime
  else none

def destination (s : Settings) : Destination :=
  if s.out = "" ∨ s.out = "-" then .stdout else .file s.out

def conventions (s : Settings) : Conventions where
  strict := s.strict

def target (s : Settings) : Source.Target where
  package := s.package
  runtime := s.runtime

theorem lack?_eq_none_iff (s : Settings) :
    s.lack? = none ↔ s.model ≠ "" ∧ s.package ≠ "" ∧ s.runtime ≠ "" := by
  simp only [lack?]
  grind

end Settings

end ModelCompiler
