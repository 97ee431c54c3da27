import ModelCompiler.Settings.Flag

/-! # Usage -/

namespace ModelCompiler

namespace Flag

/-- The default of a flag as usage shows it: nothing for what is off or empty. -/
def defaultText (s : Settings) : Flag → String
  | .switch f => if s.switch f then " (default true)" else ""
  | .parameter f =>
    if s.parameter f = "" then "" else " (default " ++ Text.quote (s.parameter f) ++ ")"

/-- The lines about a flag. The purpose of a flag with a short name follows on the same line. -/
def usage (s : Settings) (f : Flag) : String :=
  let kind := match f with
    | .switch _ => ""
    | .parameter _ => " string"
  let head := "  -" ++ f.name ++ kind
  let gap := if head.length ≤ 4 then "\t" else "\n    \t"
  head ++ gap ++ f.purpose ++ f.defaultText s ++ "\n"

end Flag

namespace Settings

/-- How the program is called, with these settings as the defaults of the flags. -/
def usage (s : Settings) : String :=
  "usage: uml-generator [flags] [<model.gaphor>]\n\n" ++
  "Reads a Gaphor model and writes the generated Go model code.\n" ++
  "Flags default to the UMLGEN_* environment variables, which may also be set\n" ++
  "in a .env file in the current directory.\n\n" ++
  "Flags:\n" ++
  String.join (Flag.all.map (Flag.usage s))

end Settings

/-- Why there are no settings for some arguments. -/
inductive UsageError where
  | flag (e : FlagError)
  | manyModels
  | lack (l : Lack)
deriving DecidableEq, Repr

/-- What is printed before usage. -/
def UsageError.text : UsageError → String
  | .flag .help => ""
  | .flag e => e.message ++ "\n"
  | .manyModels => "error: at most one model file argument is allowed\n"
  | .lack l => "error: " ++ l.message ++ "\n"

namespace Settings

/-- The settings of a run with the given arguments. An argument after the flags is the model. -/
def withArguments (s : Settings) (args : List String) : Except UsageError Settings :=
  match readFlags args s with
  | .error e => .error (.flag e)
  | .ok (s, rest) =>
    match rest with
    | _ :: _ :: _ => .error .manyModels
    | _ =>
      let s := { s with model := rest.head?.getD s.model }
      match s.lack? with
      | some l => .error (.lack l)
      | none => .ok s

end Settings

end ModelCompiler
