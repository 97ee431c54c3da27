import ModelCompiler.Yaml.Token

/-! # The tree of a document -/

namespace ModelCompiler.Yaml

/-- A node of a document. A tag is one that the document gives, in its short form. -/
inductive Node where
  | scalar (tag : Option String) (style : ScalarStyle) (text : String)
  | sequence (items : List Node)
  | mapping (pairs : List (Node × Node))
  /-- The `number`th reference of the document, to the `target`th node with an anchor. That may be
  a node that this one is a part of. -/
  | reference (number : Nat) (name : String) (target : Nat)
deriving Repr

namespace Node

/-- A node without any text. -/
def blank : Node := .scalar none .plain ""

end Node

/-- A document: its root, if there is any, and the nodes that have anchors. -/
structure Document where
  root : Option Node := none
  anchored : List Node := []
  /-- The number of tokens. -/
  size : Nat := 0

/-- A bound for the steps from node to node, each to a part or to what a reference refers to, that
follow no reference twice. -/
def Document.steps (d : Document) : Nat := (d.size + 1) * (d.size + 1)

/-- Why a document cannot be read. -/
inductive Error where
  | malformed
  | mismatch
deriving DecidableEq, Repr

def Error.message : Error → String
  | .malformed => "malformed document"
  | .mismatch => "unexpected value"

/-- What is left to read of the tokens, and what has been declared. -/
structure Reader where
  rest : List Token
  /-- The nodes with anchors; those that are not finished are blank. -/
  anchors : List (String × Node) := []
  /-- The number of references. -/
  references : Nat := 0
  /-- The handles of tags and what they stand for. -/
  handles : List (String × String) := []

/-- Reads a part of a document, or finds it malformed. -/
abbrev Reads := StateT Reader Option

/-- The next token. -/
def peek : Reads Token := do
  match (← get).rest with
  | t :: _ => return t
  | [] => failure

def advance : Reads Unit := modify fun r => { r with rest := r.rest.drop 1 }

/-! ## Properties of nodes -/

/-- The anchor and the tag before a node. -/
structure Properties where
  anchor : Option String := none
  tag : Option WrittenTag := none
deriving DecidableEq, Repr

def anchorHere? : Reads (Option String) := do
  match ← peek with
  | .anchor name => advance; return some name
  | _ => return none

def tagHere? : Reads (Option WrittenTag) := do
  match ← peek with
  | .tag t => advance; return some t
  | _ => return none

/-- The anchor and the tag here, in either order. -/
def properties : Reads Properties := do
  match ← anchorHere? with
  | some name => return { anchor := some name, tag := ← tagHere? }
  | none => match ← tagHere? with
    | some t => return { anchor := ← anchorHere?, tag := some t }
    | none => return {}

/-- The beginning of the tags of the format. -/
def formatTags : String := "tag:yaml.org,2002:"

/-- The short form of a tag. -/
def shortTag (tag : String) : String :=
  if formatTags.toList.isPrefixOf tag.toList then
    "!!" ++ String.ofList (tag.toList.drop formatTags.toList.length)
  else tag

/-- The tag that is meant by a written one; a lone exclamation mark means none. -/
def meaning : Option WrittenTag → Reads (Option String)
  | none => return none
  | some t =>
    if t.handle = "" then
      return if t.suffix = "!" then none else some (shortTag t.suffix)
    else do
      match (← get).handles.lookup t.handle with
      | some text => return some (shortTag (text ++ t.suffix))
      | none => failure

/-- Notes that a node with an anchor begins, and gives its number. -/
def begin (anchor : Option String) : Reads Nat := do
  let r ← get
  match anchor with
  | none => return r.anchors.length
  | some name =>
    set { r with anchors := r.anchors ++ [(name, Node.blank)] }
    return r.anchors.length

/-- Notes that a node with an anchor is finished. -/
def finish (anchor : Option String) (number : Nat) (n : Node) : Reads Node := do
  if anchor.isSome then
    modify fun r => { r with anchors := r.anchors.modify number fun p => (p.1, n) }
  return n

/-- A reference to the node that an anchor was given to last. -/
def referent (name : String) : Reads Node := do
  let r ← get
  let later := r.anchors.reverse.takeWhile (·.1 != name)
  if later.length < r.anchors.length then
    set { r with references := r.references + 1 }
    return .reference r.references name (r.anchors.length - later.length - 1)
  else failure

/-! ## Nodes -/

/-- Where a node stands: in a block or between brackets, and whether a sequence may begin in it
without being indented. -/
inductive Context where
  | block
  | blockValue
  | flow
deriving DecidableEq, Repr

/-- The tokens that an empty node of a mapping in a block stands before. -/
def endsBlockPart : Token → Bool
  | .key | .value | .blockEnd => true
  | _ => false

/-- The tokens that an empty key of a mapping between brackets stands before. -/
def endsFlowPart : Token → Bool
  | .value | .flowEntry | .flowMappingEnd => true
  | _ => false

mutual

/-- A node, in at most `fuel` steps. -/
def node : Nat → Context → Reads Node
  | 0, _ => failure
  | fuel + 1, context => do
    if let .reference name := ← peek then
      advance
      return ← referent name
    let p ← properties
    let tag ← meaning p.tag
    let number ← begin p.anchor
    match ← peek with
    | .scalar style text =>
      advance
      finish p.anchor number (.scalar tag style text)
    | .flowSequenceStart =>
      advance
      finish p.anchor number (.sequence (← flowItems fuel true))
    | .flowMappingStart =>
      advance
      finish p.anchor number (.mapping (← flowPairs fuel true))
    | t =>
      if t = .blockEntry ∧ context = .blockValue then
        finish p.anchor number (.sequence (← looseItems fuel))
      else if t = .blockSequenceStart ∧ context ≠ .flow then
        advance
        finish p.anchor number (.sequence (← blockItems fuel))
      else if t = .blockMappingStart ∧ context ≠ .flow then
        advance
        finish p.anchor number (.mapping (← blockPairs fuel))
      else if p.anchor.isSome ∨ p.tag.isSome then
        finish p.anchor number (.scalar tag .plain "")
      else failure

/-- The items of a sequence in a block. -/
def blockItems : Nat → Reads (List Node)
  | 0 => failure
  | fuel + 1 => do
    match ← peek with
    | .blockEnd =>
      advance
      return []
    | .blockEntry =>
      advance
      let t ← peek
      let item ← if t = .blockEntry ∨ t = .blockEnd then pure .blank else node fuel .block
      return item :: (← blockItems fuel)
    | _ => failure

/-- The items of a sequence that is not indented. -/
def looseItems : Nat → Reads (List Node)
  | 0 => failure
  | fuel + 1 => do
    match ← peek with
    | .blockEntry =>
      advance
      let t ← peek
      let item ← if t = .blockEntry ∨ endsBlockPart t then pure .blank else node fuel .block
      return item :: (← looseItems fuel)
    | _ => return []

/-- The pairs of a mapping in a block. -/
def blockPairs : Nat → Reads (List (Node × Node))
  | 0 => failure
  | fuel + 1 => do
    match ← peek with
    | .blockEnd =>
      advance
      return []
    | .key =>
      advance
      let key ← if endsBlockPart (← peek) then pure .blank else node fuel .blockValue
      let value ← blockValue fuel
      return (key, value) :: (← blockPairs fuel)
    | _ => failure

/-- The value after a key in a block; it may be left out. -/
def blockValue : Nat → Reads Node
  | 0 => failure
  | fuel + 1 => do
    if (← peek) = .value then
      advance
      if endsBlockPart (← peek) then return .blank else node fuel .blockValue
    else return .blank

/-- The items of a sequence between brackets. An item may be a single pair. -/
def flowItems : Nat → Bool → Reads (List Node)
  | 0, _ => failure
  | fuel + 1, first => do
    if (← peek) = .flowSequenceEnd then
      advance
      return []
    if !first then
      if (← peek) = .flowEntry then advance else failure
    match ← peek with
    | .flowSequenceEnd =>
      advance
      return []
    | .key =>
      advance
      let pair ← flowPair fuel
      return .mapping [pair] :: (← flowItems fuel false)
    | _ =>
      let item ← node fuel .flow
      return item :: (← flowItems fuel false)

/-- A pair that is an item of a sequence. A token that takes the place of its key is passed over. -/
def flowPair : Nat → Reads (Node × Node)
  | 0 => failure
  | fuel + 1 => do
    let t ← peek
    let key ←
      if t = .value ∨ t = .flowEntry ∨ t = .flowSequenceEnd then do
        advance
        pure .blank
      else node fuel .flow
    if (← peek) = .value then
      advance
      let t ← peek
      if t = .flowEntry ∨ t = .flowSequenceEnd then return (key, .blank)
      else return (key, ← node fuel .flow)
    else return (key, .blank)

/-- The pairs of a mapping between brackets. -/
def flowPairs : Nat → Bool → Reads (List (Node × Node))
  | 0, _ => failure
  | fuel + 1, first => do
    if (← peek) = .flowMappingEnd then
      advance
      return []
    if !first then
      if (← peek) = .flowEntry then advance else failure
    match ← peek with
    | .flowMappingEnd =>
      advance
      return []
    | .key =>
      advance
      let key ← if endsFlowPart (← peek) then pure .blank else node fuel .flow
      let value ← flowValue fuel
      return (key, value) :: (← flowPairs fuel false)
    | _ =>
      let key ← node fuel .flow
      return (key, .blank) :: (← flowPairs fuel false)

/-- The value after a key between brackets; it may be left out. -/
def flowValue : Nat → Reads Node
  | 0 => failure
  | fuel + 1 => do
    if (← peek) = .value then
      advance
      let t ← peek
      if t = .flowEntry ∨ t = .flowMappingEnd then return .blank else node fuel .flow
    else return .blank

end

/-! ## Documents -/

/-- The handles that need no directive. -/
def formatHandles : List (String × String) := [("!", "!"), ("!!", formatTags)]

/-- Reads directives; a version or a handle is given once, and there is one version. -/
def directives : Nat → Bool → Reads Unit
  | 0, _ => failure
  | fuel + 1, versioned => do
    match ← peek with
    | .directive (.version major minor) =>
      if versioned ∨ major ≠ 1 ∨ minor ≠ 1 then failure
      advance
      directives fuel true
    | .directive (.tag handle text) =>
      if ((← get).handles.lookup handle).isSome then failure
      advance
      modify fun r => { r with handles := r.handles ++ [(handle, text)] }
      directives fuel versioned
    | _ => modify fun r => { r with handles := r.handles ++ formatHandles }

/-- The tokens that a document without content ends with. -/
def endsDocument : Token → Bool
  | .directive _ | .documentStart | .documentEnd | .streamEnd => true
  | _ => false

/-- The root of the first document, if there is any. -/
def document (fuel : Nat) : Reads (Option Node) := do
  if (← peek) ≠ .streamStart then failure
  advance
  match ← peek with
  | .streamEnd => return none
  | .directive _ | .documentStart =>
    directives fuel false
    if (← peek) ≠ .documentStart then failure
    advance
    let root ← if endsDocument (← peek) then pure .blank else node fuel .block
    let _ ← peek
    return some root
  | _ =>
    directives fuel false
    let root ← node fuel .block
    let _ ← peek
    return some root

/-- The first document of a text. -/
def parse (text : String) : Except Error Document :=
  let ts := tokens text
  match (document (3 * ts.length + 3)).run { rest := ts } with
  | some (root, r) => .ok { root, anchored := r.anchors.map (·.2), size := ts.length }
  | none => .error .malformed

end ModelCompiler.Yaml
