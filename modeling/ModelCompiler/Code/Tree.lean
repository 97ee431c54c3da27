import ModelCompiler.Code.Place
import ModelCompiler.Code.Token

/-! # Trees: what the tokens of a text mean

Every node knows where it stands, since a layout keeps the line breaks between the parts of a
list. -/

namespace ModelCompiler.Code

structure Comment where
  start : Nat
  text : List Char
deriving DecidableEq, Repr, Inhabited

namespace Comment

def stop (c : Comment) : Nat := c.start + byteWidth c.text

/-- Whether the comment ends with its line. -/
def endsLine (c : Comment) : Bool := "//".toList.isPrefixOf c.text

end Comment

/-- Comments with nothing but space between them. -/
abbrev CommentGroup := List Comment

structure Name where
  start : Nat
  text : List Char
deriving DecidableEq, Repr, Inhabited

def Name.stop (n : Name) : Nat := n.start + byteWidth n.text

/-- What a channel is for. -/
inductive Direction where
  | both
  | send
  | receive
deriving DecidableEq, Repr, Inhabited

mutual

/-- An expression or a type, from the offset `start` to the offset `stop`. -/
structure Expr where
  start : Nat
  stop : Nat
  form : Form

inductive Form where
  /-- What should have been there could not be read. -/
  | missing
  | name (text : List Char)
  | literal (kind : Kind) (text : List Char)
  /-- Three dots before a type. -/
  | dots (element? : Option Expr)
  | function (type : Signature) (body : Block)
  | composite (type? : Option Expr) (opening : Nat) (items : List Expr)
  | parens (inner : Expr)
  | selector (base : Expr) (name : Name)
  | index (base : Expr) (opening : Nat) (indices : List Expr)
  | slice (base : Expr) (opening : Nat) (bounds : List (Option Expr))
  /-- The type of a value, which is asked for if none is given. -/
  | assertion (base : Expr) (opening : Nat) (type? : Option Expr)
  | call (function : Expr) (opening : Nat) (arguments : List Expr) (dots? : Option Nat)
  | star (inner : Expr)
  | unary (op : String) (inner : Expr)
  | binary (left : Expr) (place : Nat) (op : String) (right : Expr)
  | pair (key : Expr) (colon : Nat) (value : Expr)
  | array (length? : Option Expr) (element : Expr)
  | record (fields : Fields)
  | signature (type : Signature)
  | contract (methods : Fields)
  | table (key value : Expr)
  | channel (arrow? : Option Nat) (direction : Direction) (element : Expr)

/-- The type of a function. -/
structure Signature where
  types? : Option Fields
  parameters : Fields
  results? : Option Fields

structure Field where
  names : List Name
  type : Expr
  tag? : Option Expr
  /-- Whether a comment ends its line. -/
  remarked : Bool

structure Fields where
  opening? : Option Nat
  list : List Field
  closing? : Option Nat

inductive Stmt where
  /-- What should have been there could not be read. -/
  | missing (start : Nat)
  | empty (start : Nat)
  | declaration (d : Decl)
  | labeled (label : Name) (colon : Nat) (body : Stmt)
  | expression (x : Expr)
  | send (channel : Expr) (arrow : Nat) (value : Expr)
  | step (x : Expr) (place : Nat) (op : String)
  | assign (left : List Expr) (place : Nat) (op : String) (right : List Expr)
  /-- A call that another routine makes, or that is made at the end. -/
  | launch (start : Nat) (word : String) (call : Expr)
  | result (start : Nat) (values : List Expr)
  | jump (start : Nat) (word : String) (label? : Option Name)
  | block (b : Block)
  | condition (start : Nat) (first? : Option Stmt) (test : Expr) (body : Block)
      (otherwise? : Option Stmt)
  | choice (start : Nat) (first? : Option Stmt) (value? : Option Expr) (body : Block)
  | typeChoice (start : Nat) (first? : Option Stmt) (guard : Stmt) (body : Block)
  | selection (start : Nat) (body : Block)
  /-- A case of a choice; without values it is that of all others. -/
  | branch (start : Nat) (values? : Option (List Expr)) (colon : Nat) (body : List Stmt)
  | exchange (start : Nat) (first? : Option Stmt) (colon : Nat) (body : List Stmt)
  | loop (start : Nat) (first? : Option Stmt) (test? : Option Expr) (step? : Option Stmt)
      (body : Block)
  | iteration (start : Nat) (targets : List Expr) (place : Nat) (op : String) (x : Expr)
      (body : Block)

structure Block where
  opening : Nat
  list : List Stmt
  closing : Nat

inductive Spec where
  | imported (name? : Option Name) (path : Expr) (stop? : Option Nat)
      (comment? : Option CommentGroup)
  | values (names : List Name) (type? : Option Expr) (values : List Expr) (remarked : Bool)
  | defined (name : Name) (types? : Option Fields) (synonym : Bool) (type : Expr)
      (remarked : Bool)

inductive Decl where
  | group (start : Nat) (word : String) (opening? : Option Nat) (specs : List Spec)
      (closing? : Option Nat) (documented : Bool)
  | function (start : Nat) (receiver? : Option Fields) (name : Name) (type : Signature)
      (body? : Option Block) (documented : Bool)

end

namespace Name

def toExpr (n : Name) : Expr := { start := n.start, stop := n.stop, form := .name n.text }

end Name

namespace Field

def start (f : Field) : Nat := (f.names.head?.map (·.start)).getD f.type.start

def stop (f : Field) : Nat := (f.tag?.map (·.stop)).getD f.type.stop

end Field

namespace Fields

def stop (f : Fields) : Nat :=
  match f.closing?, f.list.getLast? with
  | some closing, _ => closing + 1
  | none, some last => last.stop
  | none, none => 0

/-- The number of names, where a field without a name counts for one. -/
def count (f : Fields) : Nat := f.list.foldl (fun n x => n + max 1 x.names.length) 0

end Fields

def Signature.stop (s : Signature) : Nat := (s.results?.map (·.stop)).getD s.parameters.stop

namespace Spec

def start : Spec → Nat
  | .imported name? path _ _ => (name?.map (·.start)).getD path.start
  | .values names _ _ _ => (names.head?.map (·.start)).getD 0
  | .defined name _ _ _ _ => name.start

/-- Whether a comment ends the line of a spec. -/
def hasRemark : Spec → Bool
  | .imported _ _ _ comment? => comment?.isSome
  | .values _ _ _ remarked => remarked
  | .defined _ _ _ _ remarked => remarked

end Spec

namespace Decl

def start : Decl → Nat
  | .group start .. => start
  | .function start .. => start

/-- The word that a declaration begins with. -/
def word : Decl → String
  | .group _ word .. => word
  | .function .. => "func"

def documented : Decl → Bool
  | .group _ _ _ _ _ documented => documented
  | .function _ _ _ _ _ documented => documented

end Decl

namespace Stmt

def start : Stmt → Nat
  | .missing start => start
  | .empty start => start
  | .declaration d => d.start
  | .labeled label _ _ => label.start
  | .expression x => x.start
  | .send x _ _ => x.start
  | .step x _ _ => x.start
  | .assign left _ _ _ => (left.head?.map (·.start)).getD 0
  | .launch start _ _ => start
  | .result start _ => start
  | .jump start _ _ => start
  | .block b => b.opening
  | .condition start _ _ _ _ => start
  | .choice start _ _ _ => start
  | .typeChoice start _ _ _ => start
  | .selection start _ => start
  | .branch start _ _ _ => start
  | .exchange start _ _ _ => start
  | .loop start _ _ _ _ => start
  | .iteration start _ _ _ _ _ => start

/-- The number of labels before a statement. -/
def labels : Stmt → Nat
  | .labeled _ _ body => body.labels + 1
  | _ => 0

end Stmt

/-! ## Parts -/

/-- An expression or a statement. -/
inductive Node where
  | expr (x : Expr)
  | stmt (s : Stmt)

namespace Node

def ofExprs (xs : List Expr) : List Node := xs.map .expr

def ofStmts (ss : List Stmt) : List Node := ss.map .stmt

def ofFields (f : Fields) : List Node := f.list.map fun x => .expr x.type

def ofSignature (s : Signature) : List Node :=
  (s.types?.map ofFields).getD [] ++ ofFields s.parameters ++ (s.results?.map ofFields).getD []

def ofSpec : Spec → List Node
  | .imported .. => []
  | .values _ type? values _ => ofExprs (type?.toList ++ values)
  | .defined _ types? _ type _ => (types?.map ofFields).getD [] ++ [.expr type]

def ofDecl : Decl → List Node
  | .group _ _ _ specs _ _ => specs.flatMap ofSpec
  | .function _ receiver? _ type body? _ =>
    (receiver?.map ofFields).getD [] ++ ofSignature type ++ ofStmts ((body?.map (·.list)).getD [])

def ofForm : Form → List Node
  | .missing | .name _ | .literal _ _ => []
  | .dots element? => ofExprs element?.toList
  | .function type body => ofSignature type ++ ofStmts body.list
  | .composite type? _ items => ofExprs (type?.toList ++ items)
  | .parens inner | .star inner | .unary _ inner => [.expr inner]
  | .selector base _ => [.expr base]
  | .index base _ indices => ofExprs (base :: indices)
  | .slice base _ bounds => ofExprs (base :: bounds.filterMap id)
  | .assertion base _ type? => ofExprs (base :: type?.toList)
  | .call function _ arguments _ => ofExprs (function :: arguments)
  | .binary left _ _ right => ofExprs [left, right]
  | .pair key _ value => ofExprs [key, value]
  | .array length? element => ofExprs (length?.toList ++ [element])
  | .record fields | .contract fields => ofFields fields
  | .signature type => ofSignature type
  | .table key value => ofExprs [key, value]
  | .channel _ _ element => [.expr element]

/-- The expressions and statements right inside another one. -/
def parts : Node → List Node
  | .expr x => ofForm x.form
  | .stmt s => match s with
    | .missing _ | .empty _ | .jump _ _ _ => []
    | .declaration d => ofDecl d
    | .labeled _ _ body => [.stmt body]
    | .expression x | .step x _ _ | .launch _ _ x => [.expr x]
    | .send channel _ value => ofExprs [channel, value]
    | .assign left _ _ right => ofExprs (left ++ right)
    | .result _ values => ofExprs values
    | .block b | .selection _ b => ofStmts b.list
    | .condition _ first? test body otherwise? =>
      ofStmts first?.toList ++ [.expr test] ++ ofStmts (body.list ++ otherwise?.toList)
    | .choice _ first? value? body =>
      ofStmts first?.toList ++ ofExprs value?.toList ++ ofStmts body.list
    | .typeChoice _ first? guard body => ofStmts (first?.toList ++ guard :: body.list)
    | .branch _ values? _ body => ofExprs (values?.getD []) ++ ofStmts body
    | .exchange _ first? _ body => ofStmts (first?.toList ++ body)
    | .loop _ first? test? step? body =>
      ofStmts (first?.toList ++ step?.toList ++ body.list) ++ ofExprs test?.toList
    | .iteration _ targets _ _ x body => ofExprs (targets ++ [x]) ++ ofStmts body.list

end Node

/-- A whole text. -/
structure Program where
  start : Nat
  name : Name
  declarations : List Decl
  comments : List CommentGroup

end ModelCompiler.Code
