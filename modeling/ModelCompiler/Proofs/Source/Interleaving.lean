import ModelCompiler.Proofs.Source.Recording
import ModelCompiler.Source.Session

/-!
# How calls of different kinds are mixed

Calls may come in any order as far as they are of different kinds, and the source may be asked for
at any time in between.  Main statement: two sessions with the same calls of each kind, each kind in
the same order, are answered alike from then on.

A request for the source leaves the recording as it is, so a session leaves what its calls leave,
and these add to one list each.
-/

namespace ModelCompiler

namespace Call

/-- What a call is for. -/
inductive Kind where
  | comment
  | classDef
  | enumeration
  | attribute
  | association
  | redefinition
  | derivedUnion
  | operation
deriving DecidableEq, Repr

def kind : Call → Kind
  | .comment _ => .comment
  | .classDef _ => .classDef
  | .enumeration _ => .enumeration
  | .attribute _ => .attribute
  | .association _ _ => .association
  | .redefinition _ => .redefinition
  | .derivedUnion _ => .derivedUnion
  | .operation _ => .operation

/-- What is picked from calls of one kind only is picked from the calls of that kind. -/
theorem filterMap_filter_kind {α : Type} {pick : Call → Option α} {k : Kind}
    (typed : ∀ c a, pick c = some a → c.kind = k) (calls : List Call) :
    (calls.filter (·.kind = k)).filterMap pick = calls.filterMap pick := by
  rw [List.filterMap_filter]
  refine List.filterMap_congr fun c _ => ?_
  cases picked : pick c with
  | none => exact ite_self none
  | some a => exact if_pos (decide_eq_true (typed c a picked))

end Call

namespace Source

/-- The call that is to be recorded. -/
def Request.call? : Request → Option Call
  | .record c => some c
  | .write _ => none

/-- The calls of a kind, in order. -/
def callsOf (k : Call.Kind) (requests : List Request) : List Call :=
  (requests.filterMap Request.call?).filter (·.kind = k)

namespace Recording

theorem foldl_record_congr {calls others : List Call}
    (same : ∀ k : Call.Kind, calls.filter (·.kind = k) = others.filter (·.kind = k))
    (r : Recording) : calls.foldl record r = others.foldl record r := by
  have picked {α : Type} {pick : Call → Option α} (k : Call.Kind)
      (typed : ∀ c a, pick c = some a → c.kind = k) :
      calls.filterMap pick = others.filterMap pick := by
    rw [← Call.filterMap_filter_kind typed, same, Call.filterMap_filter_kind typed]
  rw [foldl_record, foldl_record,
    picked .comment fun c _ h => by cases c <;> cases h; rfl,
    picked .classDef fun c _ h => by cases c <;> cases h; rfl,
    picked .enumeration fun c _ h => by cases c <;> cases h; rfl,
    picked .attribute fun c _ h => by cases c <;> cases h; rfl,
    picked .association fun c _ h => by cases c <;> cases h; rfl,
    picked .redefinition fun c _ h => by cases c <;> cases h; rfl,
    picked .derivedUnion fun c _ h => by cases c <;> cases h; rfl,
    picked .operation fun c _ h => by cases c <;> cases h; rfl]

variable (t : Target) (r : Recording)

theorem serve_eq (q : Request) : (r.serve t q).1 = q.call?.toList.foldl record r := by
  cases q <;> rfl

/-- A session leaves what its calls leave, whatever is written in between. -/
theorem serveAll_eq (requests : List Request) :
    (r.serveAll t requests).1 = (requests.filterMap Request.call?).foldl record r := by
  induction requests generalizing r with
  | nil => rfl
  | cons q requests ih =>
    rw [serveAll, ih, serve_eq, ← List.foldl_append, List.filterMap_eq_flatMap_toList,
      List.filterMap_eq_flatMap_toList, List.flatMap_cons]

theorem answers_concat (requests : List Request) (q : Request) :
    (r.serveAll t (requests ++ [q])).2 =
      (r.serveAll t requests).2 ++ [((r.serveAll t requests).1.serve t q).2] := by
  induction requests generalizing r with
  | nil => rfl
  | cons p requests ih =>
    show (r.serve t p).2 :: ((r.serve t p).1.serveAll t (requests ++ [q])).2 = _
    rw [ih]
    rfl

/-- Sessions with the same calls of each kind, each kind in the same order, leave the same
recording, and a request for the source that follows is answered alike: by the source of the calls
alone, or by why it has none.  Neither how the kinds are mixed nor what is written in between
matters. -/
theorem answers_of_same_calls {requests others : List Request}
    (same : ∀ k, callsOf k requests = callsOf k others) :
    (r.serveAll t requests).1 = (r.serveAll t others).1 ∧
    ∀ header, ∃ answer : Except GenerationError String,
      answer = ((requests.filterMap Request.call?).foldl record r).write t header ∧
      (r.serveAll t (requests ++ [.write header])).2 =
        (r.serveAll t requests).2 ++ [some answer] ∧
      (r.serveAll t (others ++ [.write header])).2 = (r.serveAll t others).2 ++ [some answer] := by
  have left := serveAll_eq t r requests
  have right : (r.serveAll t others).1 = (requests.filterMap Request.call?).foldl record r := by
    rw [serveAll_eq, foldl_record_congr same]
  refine ⟨left.trans right.symm, fun header => ⟨_, rfl, ?_, ?_⟩⟩
  · rw [answers_concat, left]
    rfl
  · rw [answers_concat, right]
    rfl

/-- A class and an enumeration of one name, recorded either way round: the enumeration clashes with
the class both times, though its source was written before there was a class. -/
theorem answers_of_same_calls_paint :
    let structural : Request := .record (.classDef { id := "c", name := "Paint" })
    let enumeration : Request := .record (.enumeration { id := "e", name := "Paint" })
    let clash : GenerationError :=
      .assembly (.clash (.enumeration "Paint") (.structural "Paint") "Paint")
    (∀ k, callsOf k [enumeration, .write "", structural] =
      callsOf k [structural, enumeration]) ∧
    (serveAll {} {} [structural, enumeration, .write "// Paint"]).2 =
      [none, none, some (.error clash)] ∧
    ∃ early, (serveAll {} {} [enumeration, .write "", structural, .write "// Paint"]).2 =
      [none, some early, none, some (.error clash)] := by
  intro structural enumeration clash
  have same (k : Call.Kind) :
      callsOf k [enumeration, .write "", structural] = callsOf k [structural, enumeration] := by
    cases k <;> rfl
  obtain ⟨-, answered⟩ := answers_of_same_calls {} {} same
  obtain ⟨answer, written, left, right⟩ := answered "// Paint"
  have clashes : answer = .error clash := by
    rw [written]
    decide +kernel
  rw [clashes] at left right
  exact ⟨same, right, _, left⟩

end Recording

end Source

end ModelCompiler
