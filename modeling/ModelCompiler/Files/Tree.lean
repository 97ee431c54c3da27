import ModelCompiler.Files.Basic
import ModelCompiler.Files.Path

/-! # Trees of files

Directories and files held in memory. A node is found under the names that lead to it from the
root, the last name first. -/

namespace ModelCompiler

inductive FileNode where
  | directory
  | file (text : String)
deriving DecidableEq, Repr

structure FileTree where
  nodes : List (List String × FileNode) := []
deriving DecidableEq, Repr

namespace FileTree

/-- The node at a place. The root is always a directory. -/
def node? (t : FileTree) (place : List String) : Option FileNode :=
  if place = [] then some .directory else t.nodes.lookup place

/-- Puts a node at a place. -/
def put (t : FileTree) (place : List String) (n : FileNode) : FileTree :=
  ⟨(place, n) :: t.nodes.filter (·.1 != place)⟩

theorem lookup_filter_ne {α β : Type} [BEq α] [LawfulBEq α] {a b : α} (h : a ≠ b)
    (l : List (α × β)) :
    (l.filter (·.1 != b)).lookup a = l.lookup a := by
  induction l with
  | nil => rfl
  | cons p l ih =>
    obtain ⟨k, v⟩ := p
    by_cases hk : k = b
    · subst hk
      rw [List.filter_cons_of_neg (by simp), ih]
      simp [List.lookup_cons, beq_false_of_ne h]
    · rw [List.filter_cons_of_pos (by simpa using hk), List.lookup_cons, List.lookup_cons, ih]

theorem node?_put (t : FileTree) (place : List String) (n : FileNode) (other : List String) :
    (t.put place n).node? other =
      if other = [] then some .directory else if other = place then some n else t.node? other := by
  by_cases h : other = []
  · simp [node?, h]
  · by_cases ho : other = place
    · simp [node?, put, ho]
    · simp only [node?, put, h, ho, if_false, List.lookup_cons, beq_false_of_ne ho]
      exact lookup_filter_ne ho t.nodes

/-- The place that a walk along some names leads to. All places on the way are directories; the
last one need not be there. -/
def walk (t : FileTree) (place : List String) : List String → Except FileFault (List String)
  | [] => .ok place
  | name :: names =>
    match t.node? place with
    | none => .error .missing
    | some (.file _) => .error .notDirectory
    | some .directory => t.walk (Path.stepInside place name) names

/-- The place of a path. -/
def locate (t : FileTree) (path : String) : Except FileFault (List String) :=
  t.walk [] (Path.names path)

/-- The text of the file at a path. -/
def read (t : FileTree) (path : String) : Except FileError String :=
  match t.locate path with
  | .error f => .error ⟨.opening, path, f⟩
  | .ok place =>
    match t.node? place with
    | none => .error ⟨.opening, path, .missing⟩
    | some .directory => .error ⟨.reading, path, .isDirectory⟩
    | some (.file text) => .ok text

/-- The tree with a text in the file at a path. -/
def write (t : FileTree) (path text : String) : Except FileError FileTree :=
  match t.locate path with
  | .error f => .error ⟨.opening, path, f⟩
  | .ok place =>
    match t.node? place with
    | some .directory => .error ⟨.opening, path, .isDirectory⟩
    | _ => .ok (t.put place (.file text))

/-- The tree with directories along some names; `passed` are the names before them, the last
first. -/
def extend (t : FileTree) (passed place : List String) :
    List String → Except FileError FileTree
  | [] => .ok t
  | name :: names =>
    let next := Path.stepInside place name
    match t.node? next with
    | some .directory => t.extend (name :: passed) next names
    | some (.file _) =>
      .error ⟨.creating, Text.joinWith "/" (name :: passed).reverse, .notDirectory⟩
    | none => (t.put next .directory).extend (name :: passed) next names

/-- The tree with a directory at a path. -/
def makeDirectory (t : FileTree) (path : String) : Except FileError FileTree :=
  t.extend [] [] (Path.names path)

/-- The tree after a change that may fail, and whether it did. -/
def attempt (change : FileTree → Except FileError FileTree) :
    StateM FileTree (Except FileError Unit) :=
  fun t => match change t with
    | .ok t' => (.ok (), t')
    | .error e => (.error e, t)

instance : MonadFiles (StateM FileTree) where
  load path := fun t => (t.read path, t)
  createDirectory path := attempt (·.makeDirectory path)
  store path text := attempt (·.write path text)

/-- The files of a tree with their paths. -/
def files (t : FileTree) : List (String × String) :=
  t.nodes.filterMap fun
    | (place, .file text) => some (Text.joinWith "/" place.reverse, text)
    | (_, .directory) => none

/-- The files of a tree that another one does not have with the same text. -/
def changedFrom (t before : FileTree) : List (String × String) :=
  t.files.filter fun f => !before.files.contains f

/-- Adds a file with the directories above it, or a directory if the path ends with a slash. -/
def plant (t : FileTree) (path text : String) : Except FileError FileTree :=
  if Text.hasEnding path "/" then t.makeDirectory path
  else do (← t.makeDirectory (Path.directory path)).write path text

end FileTree

end ModelCompiler
