import ModelCompiler.Settings.Basic
import ModelCompiler.Text.Pieces

/-! # Flags -/

namespace ModelCompiler

/-- Flags that are on or off. -/
inductive Switch where
  | dump
  | strict
  | verbose
deriving DecidableEq, Repr

/-- Flags that take a text. -/
inductive Parameter where
  | model
  | out
  | overrides
  | package
  | runtime
deriving DecidableEq, Repr

inductive Flag where
  | switch (s : Switch)
  | parameter (p : Parameter)
deriving DecidableEq, Repr

namespace Settings

def switch (s : Settings) : Switch → Bool
  | .dump => s.dump
  | .strict => s.strict
  | .verbose => s.verbose

def setSwitch (s : Settings) (f : Switch) (on : Bool) : Settings :=
  match f with
  | .dump => { s with dump := on }
  | .strict => { s with strict := on }
  | .verbose => { s with verbose := on }

def parameter (s : Settings) : Parameter → String
  | .model => s.model
  | .out => s.out
  | .overrides => s.overrides
  | .package => s.package
  | .runtime => s.runtime

def setParameter (s : Settings) (f : Parameter) (text : String) : Settings :=
  match f with
  | .model => { s with model := text }
  | .out => { s with out := text }
  | .overrides => { s with overrides := text }
  | .package => { s with package := text }
  | .runtime => { s with runtime := text }

@[simp] theorem switch_setSwitch (s : Settings) (f : Switch) (on : Bool) :
    (s.setSwitch f on).switch f = on := by
  cases f <;> rfl

@[simp] theorem parameter_setParameter (s : Settings) (f : Parameter) (text : String) :
    (s.setParameter f text).parameter f = text := by
  cases f <;> rfl

end Settings

namespace Flag

def name : Flag → String
  | .switch .dump => "dump"
  | .switch .strict => "strict"
  | .switch .verbose => "v"
  | .parameter .model => "model"
  | .parameter .out => "out"
  | .parameter .overrides => "overrides"
  | .parameter .package => "package"
  | .parameter .runtime => "runtime"

/-- What a flag is for. -/
def purpose : Flag → String
  | .switch .dump => "dump the resolved association ends"
  | .switch .strict => "fail when resolution records warnings"
  | .switch .verbose => "print info diagnostics"
  | .parameter .model => "model file to read (or first argument)"
  | .parameter .out => "generated file, \"-\" for stdout"
  | .parameter .overrides => "override YAML file"
  | .parameter .package => "generated package name"
  | .parameter .runtime => "import path of the properties runtime"

/-- All flags in the order of their names. -/
def all : List Flag :=
  [.switch .dump, .parameter .model, .parameter .out, .parameter .overrides,
   .parameter .package, .parameter .runtime, .switch .strict, .switch .verbose]

def ofName? (name : String) : Option Flag := all.find? (·.name == name)

theorem mem_all (f : Flag) : f ∈ all := by
  cases f with
  | switch s => cases s <;> decide
  | parameter p => cases p <;> decide

@[simp] theorem ofName?_name (f : Flag) : ofName? f.name = some f := by
  cases f with
  | switch s => cases s <;> decide
  | parameter p => cases p <;> decide

end Flag

/-- Why arguments cannot be read. -/
inductive FlagError where
  | malformed (argument : String)
  | unknown (name : String)
  /-- Help was asked for. -/
  | help
  | truth (value name : String)
  | noValue (name : String)
deriving DecidableEq, Repr

def FlagError.message : FlagError → String
  | .malformed argument => "bad flag syntax: " ++ argument
  | .unknown name => "flag provided but not defined: -" ++ name
  | .help => "flag: help requested"
  | .truth value name =>
    "invalid boolean value " ++ Text.quote value ++ " for -" ++ name ++ ": parse error"
  | .noValue name => "flag needs an argument: -" ++ name

/-- What an argument is, by its form alone. -/
inductive Argument where
  /-- No flag. -/
  | plain
  /-- Two dashes, after which there are no flags. -/
  | divider
  | malformed
  | flag (name : String) (value? : Option String)
deriving DecidableEq, Repr

namespace Argument

/-- A flag without its dashes. -/
def ofBody : List Char → Argument
  | [] => .malformed
  | c :: cs =>
    if c = '-' ∨ c = '=' then .malformed
    else match Text.cut? '=' cs with
      | some (name, value) => .flag (String.ofList (c :: name)) (some (String.ofList value))
      | none => .flag (String.ofList (c :: cs)) none

def ofChars : List Char → Argument
  | ['-', '-'] => .divider
  | '-' :: '-' :: body => ofBody body
  | '-' :: c :: body => ofBody (c :: body)
  | _ => .plain

end Argument

namespace Settings

/-- The settings after the flags at the beginning of the arguments, and the arguments after them.
Of two values for one flag the last counts. -/
def readFlags : List String → Settings → Except FlagError (Settings × List String)
  | [], s => .ok (s, [])
  | arg :: rest, s =>
    match Argument.ofChars arg.toList with
    | .plain => .ok (s, arg :: rest)
    | .divider => .ok (s, rest)
    | .malformed => .error (.malformed arg)
    | .flag name value? =>
      match Flag.ofName? name with
      | none => .error (if name = "help" ∨ name = "h" then .help else .unknown name)
      | some (.switch f) =>
        match truthValue? (value?.getD "true") with
        | some on => readFlags rest (s.setSwitch f on)
        | none => .error (.truth (value?.getD "true") name)
      | some (.parameter f) =>
        match value? with
        | some text => readFlags rest (s.setParameter f text)
        | none => match rest with
          | text :: rest => readFlags rest (s.setParameter f text)
          | [] => .error (.noValue name)

end Settings

end ModelCompiler
