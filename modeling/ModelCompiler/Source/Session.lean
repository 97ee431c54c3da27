import ModelCompiler.Source.Generate

/-! # Sessions: a recording that is written while it grows -/

namespace ModelCompiler.Source

/-- What can be asked of a recording: to take one more call, or its source under a header. -/
inductive Request where
  | record (c : Call)
  | write (header : String)
deriving DecidableEq, Repr

/-- What is answered: nothing to a call, and to a header the source or why there is none. -/
abbrev Answer := Option (Except GenerationError String)

namespace Recording

/-- The recording after a request, and the answer. -/
def serve (t : Target) (r : Recording) : Request → Recording × Answer
  | .record c => (r.record c, none)
  | .write header => (r, some (r.write t header))

/-- The recording after requests, and the answers in order. -/
def serveAll (t : Target) : Recording → List Request → Recording × List Answer
  | r, [] => (r, [])
  | r, q :: qs =>
    let (served, answer) := r.serve t q
    let (last, answers) := serveAll t served qs
    (last, answer :: answers)

end Recording

end ModelCompiler.Source
