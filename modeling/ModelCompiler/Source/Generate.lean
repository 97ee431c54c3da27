import ModelCompiler.Code.Format
import ModelCompiler.Source.Assembly
import ModelCompiler.Source.Draft

/-! # Generation -/

namespace ModelCompiler.Source

/-- Why no source is generated. -/
inductive GenerationError where
  | assembly (e : AssemblyError)
  /-- The draft is not well formed. -/
  | format (draft : String)
deriving DecidableEq, Repr

def GenerationError.message : GenerationError → String
  | .assembly e => e.message
  | .format _ => "formatting code: malformed source"

namespace File

/-- The source of a file. -/
def source (f : File) : Except GenerationError String :=
  match Code.format? f.draft with
  | some text => .ok text
  | none => .error (.format f.draft)

end File

namespace Recording

/-- The source for all that is recorded, under the header of the target unless another is given. -/
def write (r : Recording) (t : Target) (header : String) : Except GenerationError String :=
  match assemble t (if header = "" then t.header else header) r with
  | .ok f => f.source
  | .error e => .error (.assembly e)

end Recording

/-- The source for a plan. -/
def generate (p : Plan) (t : Target) : Except GenerationError String :=
  (Recording.ofCalls p.calls).write t t.header

end ModelCompiler.Source
