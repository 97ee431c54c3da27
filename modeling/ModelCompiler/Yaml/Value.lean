import ModelCompiler.Yaml.Base64
import ModelCompiler.Yaml.Meaning
import ModelCompiler.Yaml.Node

/-! # The values of nodes

A value that is asked for is a text, a list, a record or a table. Null is no value of any kind, and
a node of another kind is a mismatch. A mapping may take in the pairs of others, which count only
under keys that it does not have itself. -/

namespace ModelCompiler.Yaml

/-! ## Scalars -/

/-- The text of a scalar, if it is not null; a tag that says what a text means has to fit. -/
def scalarText (tag : Option String) (style : ScalarStyle) (text : String) :
    Except Error (Option String) :=
  match tag with
  | none => .ok (if style = .plain ∧ nulls.contains text then none else some text)
  | some tag =>
    if tag = "!!binary" then
      match text64? text with
      | some t => .ok (some t)
      | none => .error .mismatch
    else if !meaningTags.contains tag then .ok (some text)
    else if !fits tag text then .error .mismatch
    else .ok (if tag = "!!null" then none else some text)

/-- The text of a scalar that means nothing but its text. -/
def scalarLabel? (tag : Option String) (style : ScalarStyle) (text : String) : Option String :=
  match tag with
  | none =>
    if style = .other ∨ text = "<<" ∨ meaningOf true text = .text then some text else none
  | some tag =>
    if tag = "!!binary" then text64? text
    else if meaningTags.contains tag then none
    else some text

/-! ## Reading values -/

/-- What has been read so far. -/
structure Progress where
  /-- The nodes that have been read, and how many of those in order to follow a reference. -/
  nodes : Nat := 0
  followed : Nat := 0
  /-- The references that are being followed. -/
  active : List Nat := []
deriving DecidableEq, Repr

namespace Progress

/-- Whether too much of what is read comes from references. Of a short document ninety-nine in a
hundred nodes may, of a very long one one in ten. -/
def isExcessive (p : Progress) : Bool :=
  let allowed : Int :=
    if p.nodes ≤ 400000 then 99 * 3600000
    else if 4000000 ≤ p.nodes then 10 * 3600000
    else 99 * 3600000 - 89 * (p.nodes - 400000)
  100 < p.followed && 1000 < p.nodes && allowed * p.nodes < 360000000 * p.followed

/-- One more node is read. -/
def next (p : Progress) : Progress :=
  { p with nodes := p.nodes + 1, followed := p.followed + if p.active.isEmpty then 0 else 1 }

end Progress

/-- Reads values from a document. -/
abbrev Values := ReaderT Document (StateT Progress (Except Error))

def mismatch {α : Type} : Values α := throw .mismatch

/-- Notes that a node is read. -/
def visit : Values Unit := do
  modify Progress.next
  if (← get).isExcessive then mismatch

/-- Reads a node by `read`, or the node that it refers to. No reference is followed while it is
followed already. -/
def atNode {α : Type} (n : Node) (read : Node → Values α) : Values α := do
  visit
  match n with
  | .reference number _ target =>
    let p ← get
    if p.active.contains number then mismatch
    match (← MonadReader.read).anchored[target]? with
    | none => mismatch
    | some n =>
      set { p with active := number :: p.active }
      visit
      let a ← read n
      modify fun q => { q with active := p.active }
      return a
  | n => read n

/-- The text of a node. -/
def textAt (n : Node) : Values (Option String) :=
  atNode n fun
    | .scalar tag style text => liftM (scalarText tag style text)
    | _ => mismatch

/-- Null, which is the only scalar that stands for something other than a text. -/
def nullAt {α : Type} (tag : Option String) (style : ScalarStyle) (text : String) :
    Values (Option α) := do
  match ← liftM (scalarText tag style text) with
  | none => return none
  | some _ => mismatch

/-- The items of a list, read by `read`; those that are null are left out. -/
def listAt {α : Type} (n : Node) (read : Node → Values (Option α)) : Values (Option (List α)) :=
  atNode n fun
    | .sequence items => do return some ((← items.mapM read).filterMap id)
    | .scalar tag style text => nullAt tag style text
    | _ => mismatch

/-- What is read of a document, by `read` from its root, if there is one. -/
def Document.value {α : Type} (d : Document) (read : Node → Values (Option α)) :
    Except Error (Option α) :=
  match d.root with
  | none => .ok none
  | some root => (·.1) <$> ((read root).run d).run { nodes := 1 }

/-! ## Mappings -/

/-- What two keys of a mapping may not share. -/
inductive KeyForm where
  | scalar (text : String)
  | reference (name : String)
  | sequence
  | mapping
deriving DecidableEq, Repr

namespace Node

def keyForm : Node → KeyForm
  | .scalar _ _ text => .scalar text
  | .reference _ name _ => .reference name
  | .sequence _ => .sequence
  | .mapping _ => .mapping

/-- Whether a key says that its value is a mapping to be taken in. -/
def isMerge : Node → Bool
  | .scalar none .plain text => text == "<<"
  | .scalar (some tag) _ text => text == "<<" && tag == "!!merge"
  | _ => false

def isMapping : Node → Bool
  | .mapping _ => true
  | _ => false

end Node

/-- Whether no two keys of a mapping are the same. -/
def hasDistinctKeys (pairs : List (Node × Node)) : Bool :=
  (pairs.map fun p => p.1.keyForm).Nodup

/-- The text of a key that means nothing but its text. -/
def labelAt (n : Node) : Values (Option String) :=
  atNode n fun
    | .scalar tag style text => return scalarLabel? tag style text
    | _ => mismatch

/-- How a mapping is read into a value: what a pair does to it. -/
structure PairReader (β : Type) where
  /-- The keys that may occur once. -/
  unique : List String := []
  /-- Adds a pair. The first argument says whether the pair is taken in from another mapping. -/
  add : Bool → β → String → Node → Values β

/-- The state in which the pairs of a mapping are read: the value so far, and the keys that do not
count any more, if it is taken in by another. -/
structure PairState (β : Type) where
  value : β
  shielded : Option (List String) := none

namespace PairReader

variable {β : Type}

/-- Reads the pairs of a mapping itself, after some keys that may occur once. -/
def addPairs (r : PairReader β) (merged : Bool) :
    List String → PairState β → List (Node × Node) → Values (PairState β)
  | _, s, [] => return s
  | seen, s, (k, v) :: rest => do
    if k.isMerge then return ← r.addPairs merged seen s rest
    match ← textAt k with
    | none => r.addPairs merged seen s rest
    | some name =>
      if s.shielded.any (·.contains name) then return ← r.addPairs merged seen s rest
      if r.unique.contains name ∧ seen.contains name then mismatch
      let value ← r.add merged s.value name v
      r.addPairs merged (name :: seen) { value, shielded := s.shielded.map (name :: ·) } rest

/-- The value whose mapping is taken in, the last if there are several. -/
def mergeValue? (pairs : List (Node × Node)) : Option Node :=
  ((pairs.filter fun p => p.1.isMerge).getLast?).map (·.2)

/-- The keys of a mapping that no mapping taken in counts under. -/
def shields (s : PairState β) (pairs : List (Node × Node)) : Values (PairState β) := do
  match s.shielded with
  | some _ => return s
  | none => return { s with shielded := some ((← pairs.mapM fun p => labelAt p.1).filterMap id) }

/-- Whether a node is a mapping or refers to one. -/
def isMappingAt (n : Node) : Values Bool := do
  match n with
  | .reference _ _ target => return ((← MonadReader.read).anchored[target]?).any Node.isMapping
  | n => return n.isMapping

mutual

/-- Reads a mapping and what it takes in, in at most `fuel` steps of taking in. -/
def readPairs (r : PairReader β) (merged : Bool) :
    Nat → PairState β → List (Node × Node) → Values (PairState β)
  | 0, _, _ => mismatch
  | fuel + 1, s, pairs => do
    if !hasDistinctKeys pairs then mismatch
    let t ← r.addPairs merged [] s pairs
    match mergeValue? pairs with
    | none => return t
    | some v =>
      let u ← shields t pairs
      let w ← match v with
        | .sequence items => r.takeAll fuel u items
        | v => r.takeAll fuel u [v]
      return { w with shielded := if t.shielded.isNone then none else w.shielded }

/-- Takes in mappings one after the other. -/
def takeAll (r : PairReader β) :
    Nat → PairState β → List Node → Values (PairState β)
  | _, s, [] => return s
  | 0, _, _ => mismatch
  | fuel + 1, s, n :: rest => do
    if !(← isMappingAt n) then mismatch
    let s ← atNode n fun
      | .mapping pairs => r.readPairs true fuel s pairs
      | _ => mismatch
    r.takeAll fuel s rest

end

/-- The value of a mapping, from an empty one. -/
def readAt (r : PairReader β) (empty : β) (n : Node) : Values (Option β) :=
  atNode n fun
    | .mapping pairs => do
      let fuel := (← MonadReader.read).steps
      return some (← r.readPairs false fuel { value := empty } pairs).value
    | .scalar tag style text => nullAt tag style text
    | _ => mismatch

end PairReader

end ModelCompiler.Yaml
