import ModelCompiler.Command.Listing
import ModelCompiler.Element.Document
import ModelCompiler.Files.Basic
import ModelCompiler.Files.Path
import ModelCompiler.Override.Document
import ModelCompiler.Plan.Resolve
import ModelCompiler.Settings.Statement
import ModelCompiler.Settings.Usage
import ModelCompiler.Source.Generate

/-! # Runs

A run takes its settings from the environment, an environment file and its arguments. It reads a
model and perhaps overrides, and leaves the generated source on the standard output or in a file.
-/

namespace ModelCompiler

/-- What a run leaves to libraries: to read environment files and overrides, and to list association
ends.  What cannot be read is told about in a text. -/
structure Libraries where
  environment : String → Except String Environment
  overrides : Overrides.Reader
  listing : List EndSummary → String

def Libraries.standard : Libraries where
  environment text := (Environment.parse text).mapError EnvironmentError.message
  overrides := Overrides.yaml
  listing := EndSummary.listing

/-- Why a run fails after it was called rightly. -/
inductive Failure where
  | environmentFile (e : FileError)
  | environment (text : String)
  | settings (e : SettingsError)
  | modelFile (path : String) (e : FileError)
  | model (path : String) (e : DocumentError)
  | overrideFile (path : String) (e : FileError)
  | overrides (e : OverrideError)
  | resolution (f : Fault)
  | generation (e : Source.GenerationError)
  | directory (e : FileError)
  | outputFile (path : String) (e : FileError)

namespace Failure

def message : Failure → String
  | .environmentFile e => e.message
  | .environment text => text
  | .settings e => e.message
  | .modelFile path e =>
    let done := if e.action = .reading then "parse" else "open"
    "failed to " ++ done ++ " model file " ++ path ++ ": " ++ e.message
  | .model path e => "failed to parse model file " ++ path ++ ": " ++ e.message
  | .overrideFile path e => "failed to read override file " ++ path ++ ": " ++ e.message
  | .overrides e => e.message
  | .resolution f => f.message
  | .generation e => e.message
  | .directory e => "creating output directory: " ++ e.message
  | .outputFile path e => "writing file " ++ path ++ ": " ++ e.message

/-- The draft that could not be formatted, if that is the failure. -/
def draft? : Failure → Option String
  | .generation (.format draft) => some draft
  | _ => none

end Failure

/-- What a run leaves behind beside files. -/
structure Outcome where
  exit : Nat
  stdout : String := ""
  stderr : String := ""
deriving DecidableEq, Repr

/-- A text that ends its line. -/
def logLine (text : String) : String :=
  if Text.hasEnding text "\n" then text else text ++ "\n"

namespace Outcome

/-- The outcome of a run that failed after it had printed a log. -/
def failed (log : String) (f : Failure) : Outcome where
  exit := 1
  stderr := log ++ logLine ("error: " ++ f.message)

/-- The outcome of a run that was not called rightly. -/
def misused (s : Settings) (e : UsageError) : Outcome where
  exit := 2
  stderr := e.text ++ s.usage

end Outcome

/-- The diagnostics of a report as a log, the infos only on demand. -/
def Report.log (r : Report) (verbose : Bool) : String :=
  let shown := r.all.filter fun d => verbose || d.severity != .info
  String.join (shown.map fun d => logLine (d.severity.label ++ ": " ++ d.text))

/-- What is known once a model has been read: what there is to log, and the plan with its source or
the reason why there is none. -/
structure Compilation where
  log : String
  result : Except Failure (Plan × String)

/-- Compiles a model. -/
def compile (l : Libraries) (s : Settings) (g : Graph) (policy : Policy) : Compilation :=
  let r := resolve g policy s.conventions
  let log := r.plan.journal.report.log s.verbose
  match r.fault? with
  | some f => { log, result := .error (.resolution f) }
  | none =>
    { log := if s.dump then log ++ l.listing r.plan.summaries else log
      result := match Source.generate r.plan s.target with
        | .ok source => .ok (r.plan, source)
        | .error e => .error (.generation e) }

/-- What is logged when a file has been written. -/
def Plan.summary (p : Plan) (path : String) : String :=
  "wrote " ++ path ++ ": " ++ toString p.classes.length ++ " classes, " ++
    toString p.enumerations.length ++ " enumerations, " ++
    toString p.attributes.length ++ " attributes, " ++
    toString p.associations.length ++ " associations"

/-- Where a run looks for variables that the process does not set. -/
def environmentPath : String := ".env"

section Files

variable {m : Type → Type} [Monad m] [MonadFiles m] (l : Libraries)

/-- The environment that a file describes. A missing file describes the empty one. -/
def readEnvironment (path : String) : m (Except Failure Environment) := do
  match ← load path with
  | .error e => return if e.fault = .missing then .ok {} else .error (.environmentFile e)
  | .ok text => return (l.environment text).mapError .environment

/-- The settings that a run begins with. -/
def readSettings (process : Environment) : m (Except Failure Settings) := do
  match ← readEnvironment l environmentPath with
  | .error f => return .error f
  | .ok files => return (Settings.load process files).mapError .settings

def readModel (path : String) : m (Except Failure Graph) := do
  match ← load path with
  | .error e => return .error (.modelFile path e)
  | .ok text => return (Graph.ofDocument text).mapError (.model path)

/-- The policy of an override file. Without a path nothing is overridden. -/
def readPolicy (path : String) : m (Except Failure Policy) := do
  if path = "" then return .ok .none
  match ← load path with
  | .error e => return .error (.overrideFile path e)
  | .ok text => return ((Overrides.parse l.overrides text).mapError .overrides).map .ofOverrides

/-- Reads a model and the overrides for it, and compiles it. -/
def compileFiles (s : Settings) : m Compilation := do
  match ← readModel s.model with
  | .error f => return { log := "", result := .error f }
  | .ok g =>
    match ← readPolicy l s.overrides with
    | .error f => return { log := "", result := .error f }
    | .ok policy => return compile l s g policy

/-- Puts a text into a file and creates the directory of the file if it is missing. -/
def save (path text : String) : m (Except Failure Unit) := do
  match ← createDirectory (Path.directory path) with
  | .error e => return .error (.directory e)
  | .ok () => return (← store path text).mapError (.outputFile path)

/-- Leaves the source where it goes. A draft that could not be formatted is left beside the file
that was asked for, if that can be done. -/
def deliver (destination : Destination) (c : Compilation) : m Outcome := do
  match c.result, destination with
  | .error f, .stdout => return .failed c.log f
  | .error f, .file path =>
    if let some draft := f.draft? then
      let _ ← save (m := m) (Path.sidecar path) draft
    return .failed c.log f
  | .ok (_, source), .stdout => return { exit := 0, stdout := source, stderr := c.log }
  | .ok (plan, source), .file path =>
    match ← save path source with
    | .error f => return .failed c.log f
    | .ok () => return { exit := 0, stderr := c.log ++ logLine (plan.summary path) }

/-- A run with the environment of the process and the arguments. -/
def run (process : Environment) (args : List String) : m Outcome := do
  match ← readSettings l process with
  | .error f => return .failed "" f
  | .ok defaults =>
    match defaults.withArguments args with
    | .error e => return .misused defaults e
    | .ok s => deliver s.destination (← compileFiles l s)

end Files

end ModelCompiler
