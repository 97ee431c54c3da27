import Mathlib.Data.List.Basic
import ModelCompiler.Source.Recording

/-!
# What calls leave in a recording

A recording keeps the calls of each kind in order, and nothing of how the kinds were mixed.  Main
statement: the recording of a plan holds the lists of the plan.
-/

namespace ModelCompiler

namespace Call

def comment? : Call → Option String
  | .comment text => some text
  | _ => none

def classDef? : Call → Option ClassDef
  | .classDef c => some c
  | _ => none

def enumeration? : Call → Option Enumeration
  | .enumeration e => some e
  | _ => none

def attribute? : Call → Option Attribute
  | .attribute a => some a
  | _ => none

def association? : Call → Option (End × Option End)
  | .association head tail? => some (head, tail?)
  | _ => none

def redefinition? : Call → Option End
  | .redefinition e => some e
  | _ => none

def derivedUnion? : Call → Option DerivedUnion
  | .derivedUnion u => some u
  | _ => none

def operation? : Call → Option ClassOperation
  | .operation o => some o
  | _ => none

end Call

namespace Source.Recording

/-- A call adds to the list of its kind. -/
theorem record_eq (r : Recording) (c : Call) : r.record c =
    { comments := r.comments ++ c.comment?.toList
      classes := r.classes ++ c.classDef?.toList
      enumerations := r.enumerations ++ c.enumeration?.toList
      attributes := r.attributes ++ c.attribute?.toList
      associations := r.associations ++ c.association?.toList
      redefinitions := r.redefinitions ++ c.redefinition?.toList
      unions := r.unions ++ c.derivedUnion?.toList
      operations := r.operations ++ c.operation?.toList } := by
  cases c <;>
    simp [record, Call.comment?, Call.classDef?, Call.enumeration?, Call.attribute?,
      Call.association?, Call.redefinition?, Call.derivedUnion?, Call.operation?]

theorem foldl_record (r : Recording) (calls : List Call) : calls.foldl record r =
    { comments := r.comments ++ calls.filterMap Call.comment?
      classes := r.classes ++ calls.filterMap Call.classDef?
      enumerations := r.enumerations ++ calls.filterMap Call.enumeration?
      attributes := r.attributes ++ calls.filterMap Call.attribute?
      associations := r.associations ++ calls.filterMap Call.association?
      redefinitions := r.redefinitions ++ calls.filterMap Call.redefinition?
      unions := r.unions ++ calls.filterMap Call.derivedUnion?
      operations := r.operations ++ calls.filterMap Call.operation? } := by
  induction calls generalizing r with
  | nil => simp
  | cons c calls ih =>
    rw [List.foldl_cons, ih, record_eq]
    simp only [List.filterMap_eq_flatMap_toList, List.flatMap_cons, List.append_assoc]

/-- The recording of a plan holds the lists of the plan. -/
theorem ofCalls_calls (p : Plan) : ofCalls p.calls =
    { comments := p.journal.comments
      classes := p.classes.map p.classDef
      enumerations := p.enumerations
      attributes := p.attributes
      associations := p.associations.map fun a => (a.1, some a.2)
      redefinitions := p.redefinitions
      unions := p.derivedUnions
      operations := p.operations } := by
  rw [ofCalls, foldl_record]
  simp [Plan.calls, List.filterMap_append, List.filterMap_map, Function.comp_def, Call.comment?,
    Call.classDef?, Call.enumeration?, Call.attribute?, Call.association?, Call.redefinition?,
    Call.derivedUnion?, Call.operation?]

end Source.Recording

end ModelCompiler
