import ModelCompiler.Override.Basic
import ModelCompiler.Yaml.Printer
import ModelCompiler.Yaml.Value

/-! # Override documents -/

namespace ModelCompiler

/-- Why there are no overrides in a document. -/
inductive OverrideError where
  | yaml (text : String)
  | fault (f : OverrideFault)
deriving DecidableEq, Repr

namespace OverrideError

/-- What is said before the reason why a document cannot be read. -/
def yamlText : String := "failed to parse override YAML: "

def message : OverrideError → String
  | .yaml text => yamlText ++ text
  | .fault f => f.message

end OverrideError

namespace AttributeOverride

/-- How a record with a type and a default is read. -/
def record : Yaml.PairReader AttributeOverride where
  unique := ["type", "default"]
  add _ o name n := do
    match name with
    | "type" => match ← Yaml.textAt n with
      | some type => return { o with type }
      | none => return o
    | "default" => return { o with default? := ← Yaml.textAt n }
    | _ => return o

/-- The override that a node describes, if it is not null. -/
def ofNode (n : Yaml.Node) : Yaml.Values (Option AttributeOverride) := record.readAt {} n

end AttributeOverride

namespace Overrides

/-- Puts an override under a name, in the place of one that is there. -/
def put (name : String) (o : AttributeOverride) :
    List (String × AttributeOverride) → List (String × AttributeOverride)
  | [] => [(name, o)]
  | (n, p) :: rest => if n = name then (n, o) :: rest else (n, p) :: put name o rest

/-- How a table of overrides is read. Null overrides nothing; taken in from another table, it
replaces nothing either. -/
def table : Yaml.PairReader (List (String × AttributeOverride)) where
  add merged os name n := do
    match ← AttributeOverride.ofNode n with
    | some o => return put name o os
    | none => return if merged ∧ (os.lookup name).isSome then os else put name {} os

/-- How overrides are read. -/
def record : Yaml.PairReader Overrides where
  unique := ["version", "derives", "attributes"]
  add _ f name n := do
    match name with
    | "version" => match ← Yaml.textAt n with
      | some version => return { f with version }
      | none => return f
    | "derives" => return { f with derived := (← Yaml.listAt n Yaml.textAt).getD [] }
    | "attributes" => return { f with attributes := (← table.readAt [] n).getD [] }
    | _ => return f

/-- The overrides if all their names are qualified, with defaults filled in. -/
def checked (f : Overrides) : Except OverrideFault Overrides :=
  match f.fault? with
  | some e => .error e
  | none => .ok f.withDefaults

/-- The overrides that a document describes, not yet checked. -/
def read (text : String) : Except Yaml.Error Overrides := do
  let d ← Yaml.parse text
  return (← d.value (record.readAt {})).getD {}

/-- What reads the overrides of a document without a look at their names, or says why it cannot. -/
abbrev Reader := String → Except String Overrides

/-- The reader of YAML. -/
def yaml : Reader := fun text => (read text).mapError Yaml.Error.message

/-- The overrides that a document has for a reader. -/
def parse (reader : Reader) (text : String) : Except OverrideError Overrides :=
  match reader text with
  | .error e => .error (.yaml e)
  | .ok f => match f.checked with
    | .error e => .error (.fault e)
    | .ok f => .ok f

/-! ## Writing -/

/-- A record with a type and a default. What is empty is left out. -/
def writing (o : AttributeOverride) : Yaml.Writing :=
  .pairs ((if o.type = "" then [] else [("type", .text o.type)]) ++
    o.default?.toList.map fun d => ("default", .text d))

/-- A document that describes overrides. What is empty is left out, apart from the version. -/
def write (f : Overrides) : String :=
  Yaml.writeRecord ([("version", .text f.version)] ++
    (if f.derived.isEmpty then [] else [("derives", .list f.derived)]) ++
    (if f.attributes.isEmpty then []
      else [("attributes", .pairs (f.attributes.map fun p => (p.1, writing p.2)))]))

end Overrides

end ModelCompiler
