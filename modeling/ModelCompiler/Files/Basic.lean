/-! # Files -/

namespace ModelCompiler

inductive FileAction where
  | opening
  | reading
  | creating
deriving DecidableEq, Repr

def FileAction.label : FileAction → String
  | .opening => "open"
  | .reading => "read"
  | .creating => "mkdir"

inductive FileFault where
  | missing
  | isDirectory
  | notDirectory
  /-- Any other reason, in the words of the system. -/
  | other (text : String)
deriving DecidableEq, Repr

def FileFault.label : FileFault → String
  | .missing => "no such file or directory"
  | .isDirectory => "is a directory"
  | .notDirectory => "not a directory"
  | .other text => text

/-- What could not be done with a file and why. -/
structure FileError where
  action : FileAction
  path : String
  fault : FileFault
deriving DecidableEq, Repr

def FileError.message (e : FileError) : String :=
  e.action.label ++ " " ++ e.path ++ ": " ++ e.fault.label

/-- Computations that read and write files. -/
class MonadFiles (m : Type → Type) where
  /-- The text of a file. -/
  load : String → m (Except FileError String)
  /-- Creates a directory and those above it, as far as they are missing. -/
  createDirectory : String → m (Except FileError Unit)
  /-- Puts a text into a file, which is created if it is missing. -/
  store : String → String → m (Except FileError Unit)

export MonadFiles (load createDirectory store)

end ModelCompiler
