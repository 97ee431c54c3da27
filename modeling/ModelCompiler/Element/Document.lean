import ModelCompiler.Element.Graph
import ModelCompiler.Markup.Token

/-! # Model documents

The root of a document holds one child for every element, and that holds one child for every field.
A field is a value, a reference or a list of references. All else is skipped. -/

namespace ModelCompiler

open Markup

/-- Where in a document the reader is. -/
inductive Place where
  | outside
  | element (type id : String)
  | field (type id name : String)
deriving DecidableEq, Repr

def Place.text : Place → String
  | .outside => ""
  | .element type id => "element " ++ type ++ " " ++ Text.quote id ++ ": "
  | .field type id name => "element " ++ type ++ " " ++ Text.quote id ++ " field " ++ name ++ ": "

/-- Why a document is no model. -/
inductive DocumentError where
  | empty
  | malformed (place : Place)
  | add (e : AddError)
deriving DecidableEq, Repr

def DocumentError.message : DocumentError → String
  | .empty => "empty model document"
  | .malformed place => place.text ++ "malformed markup"
  | .add e => e.message

/-- What a child of a field is read as, from its tag on. A number counts the tags that are open
inside it and skipped. -/
inductive Content where
  | value (text : String) (depth : Nat)
  | reference (id : String) (depth : Nat)
  | references (ids : List String) (depth : Nat)
  | other (depth : Nat)
deriving DecidableEq, Repr

namespace Content

def start (tag : Name) (attributes : List Markup.Attribute) : Content :=
  match tag.base with
  | "val" => .value "" 0
  | "ref" => .reference (valueOf "refid" attributes) 0
  | "reflist" => .references [] 0
  | _ => .other 0

def depth : Content → Nat
  | .value _ d | .reference _ d | .references _ d | .other d => d

/-- What the child sets its field to, if to anything. -/
def field? : Content → Option Field
  | .value text _ => some (.scalar text)
  | .reference id _ => some (.ref id)
  | .references ids _ => some (.refList ids)
  | .other _ => none

def deeper : Content → Content
  | .value text d => .value text (d + 1)
  | .reference id d => .reference id (d + 1)
  | .references ids d => .references ids (d + 1)
  | .other d => .other (d + 1)

def shallower : Content → Content
  | .value text d => .value text (d - 1)
  | .reference id d => .reference id (d - 1)
  | .references ids d => .references ids (d - 1)
  | .other d => .other (d - 1)

/-- An opening tag inside the child: a list takes the references right below it. -/
def enter (c : Content) (tag : Name) (attributes : List Markup.Attribute) : Content :=
  match c with
  | .references ids 0 =>
    if tag.base = "ref" then .references (ids ++ [valueOf "refid" attributes]) 1 else c.deeper
  | c => c.deeper

/-- Text inside the child: a value takes what stands right below it. -/
def append (c : Content) (text : String) : Content :=
  match c with
  | .value old 0 => .value (old ++ text) 0
  | c => c

end Content

/-- The field that is being read: its name and what it has been set to so far. -/
structure OpenField where
  name : String
  value : Option Field := none
deriving DecidableEq, Repr

/-- What has been opened and not closed below the root. -/
inductive Opened where
  | root
  | element (e : Element)
  | field (e : Element) (f : OpenField)
  | content (e : Element) (f : OpenField) (c : Content)
deriving DecidableEq, Repr

/-- How far a document has been read. -/
inductive Reading where
  | before
  | inside (graph : Graph) (opened : Opened)
  | done (graph : Graph)

namespace Reading

def place : Reading → Place
  | .before | .done _ | .inside _ .root => .outside
  | .inside _ (.element e) => .element e.type e.id
  | .inside _ (.field e f) | .inside _ (.content e f _) => .field e.type e.id f.name

def opening (tag : Name) (attributes : List Markup.Attribute) : Reading → Reading
  | .before => .inside .empty .root
  | .inside g .root => .inside g (.element { id := valueOf "id" attributes, type := tag.base })
  | .inside g (.element e) => .inside g (.field e { name := tag.base })
  | .inside g (.field e f) => .inside g (.content e f (.start tag attributes))
  | .inside g (.content e f c) => .inside g (.content e f (c.enter tag attributes))
  | .done g => .done g

/-- The element with a field that has been read, which counts only if something was in it. -/
def closeField (e : Element) (f : OpenField) : Element :=
  match f.value with
  | none => e
  | some v => e.set f.name v

/-- The field after one of its children, which counts only if it sets the field. -/
def closeContent (f : OpenField) (c : Content) : OpenField :=
  match c.field? with
  | none => f
  | some v => { f with value := some v }

def closing : Reading → Except DocumentError Reading
  | .before => .ok .before
  | .inside g .root => .ok (.done g)
  | .inside g (.element e) => match g.add e with
    | .ok g => .ok (.inside g .root)
    | .error err => .error (.add err)
  | .inside g (.field e f) => .ok (.inside g (.element (closeField e f)))
  | .inside g (.content e f c) =>
    if c.depth = 0 then .ok (.inside g (.field e (closeContent f c)))
    else .ok (.inside g (.content e f c.shallower))
  | .done g => .ok (.done g)

def text (content : String) : Reading → Reading
  | .inside g (.content e f c) => .inside g (.content e f (c.append content))
  | r => r

def step (r : Reading) : Token → Except DocumentError Reading
  | .opening tag attributes => .ok (r.opening tag attributes)
  | .closing _ => r.closing
  | .text content => .ok (r.text content)

/-- The graph of a document whose tokens are all read; `complete` says whether it ends there. -/
def finish (complete : Bool) : Reading → Except DocumentError Graph
  | .done g => .ok g
  | .before => .error (if complete then .empty else .malformed .outside)
  | r => .error (.malformed r.place)

/-- Reads on, up to the end of the root. -/
def run (complete : Bool) : Reading → List Token → Except DocumentError Graph
  | .done g, _ => .ok g
  | r, [] => r.finish complete
  | r, t :: ts => match r.step t with
    | .ok r => run complete r ts
    | .error e => .error e

end Reading

namespace Graph

/-- The graph that a document describes. -/
def ofDocument (document : String) : Except DocumentError Graph :=
  let s := scan document
  Reading.run s.complete .before s.tokens

end Graph

end ModelCompiler
