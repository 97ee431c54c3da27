import ModelCompiler.Plan.Emission

/-! # Recordings: what has been called for, by kind -/

namespace ModelCompiler.Source

structure Recording where
  comments : List String := []
  classes : List ClassDef := []
  enumerations : List Enumeration := []
  attributes : List Attribute := []
  associations : List (End × Option End) := []
  redefinitions : List End := []
  unions : List DerivedUnion := []
  operations : List ClassOperation := []
deriving DecidableEq, Repr

namespace Recording

def record (r : Recording) : Call → Recording
  | .comment text => { r with comments := r.comments ++ [text] }
  | .classDef c => { r with classes := r.classes ++ [c] }
  | .enumeration e => { r with enumerations := r.enumerations ++ [e] }
  | .attribute a => { r with attributes := r.attributes ++ [a] }
  | .association head tail? => { r with associations := r.associations ++ [(head, tail?)] }
  | .redefinition e => { r with redefinitions := r.redefinitions ++ [e] }
  | .derivedUnion u => { r with unions := r.unions ++ [u] }
  | .operation o => { r with operations := r.operations ++ [o] }

def ofCalls (calls : List Call) : Recording := calls.foldl record {}

end Recording

end ModelCompiler.Source
