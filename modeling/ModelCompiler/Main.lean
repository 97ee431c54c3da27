import ModelCompiler.Command.Run

/-! # The command line -/

namespace ModelCompiler

/-- Why the system refused an action on a file. -/
def FileFault.ofError : IO.Error → FileFault
  | .noFileOrDirectory .. => .missing
  | .alreadyExists .. => .notDirectory
  | .inappropriateType _ code text =>
    if code = 20 then .notDirectory else if code = 21 then .isDirectory else .other text
  | e => .other (toString e)

/-- An action on a file, with the reason if it is refused. -/
def attemptFile {α : Type} (path : String) (kind : FileFault → FileAction) (act : IO α) :
    IO (Except FileError α) := do
  try return .ok (← act)
  catch e =>
    let fault := FileFault.ofError e
    return .error ⟨kind fault, path, fault⟩

instance : MonadFiles IO where
  load path := attemptFile path
    (fun fault => if fault = .isDirectory then .reading else .opening) (IO.FS.readFile path)
  createDirectory path := attemptFile path (fun _ => .creating) (IO.FS.createDirAll path)
  store path text := attemptFile path (fun _ => .opening) (IO.FS.writeFile path text)

/-- The variables of the process that settings are taken from. -/
def processEnvironment : IO Environment := do
  let bindings ← Settings.variableNames.filterMapM fun name => do
    return (← IO.getEnv name).map fun value => (name, value)
  return { bindings }

end ModelCompiler

open ModelCompiler in
def main (args : List String) : IO UInt32 := do
  let outcome ← run (m := IO) .standard (← processEnvironment) args
  (← IO.getStdout).putStr outcome.stdout
  (← IO.getStderr).putStr outcome.stderr
  return outcome.exit.toUInt32
