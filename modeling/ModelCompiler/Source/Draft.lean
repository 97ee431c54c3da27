import ModelCompiler.Source.Text

/-! # Drafts: the text of a file before it is laid out -/

namespace ModelCompiler.Source

namespace File

def draftImport (f : File) : String :=
  if f.hasImport then
    unlines ["", "import (", "\t" ++ f.qualifier ++ " \"" ++ f.runtime ++ "\"", ")"]
  else ""

/-- A block of variables, none of which is aligned with another. -/
def draftVariables (vs : List (String × String)) : String :=
  if vs.isEmpty then ""
  else unlines
    (["", "var ("] ++ vs.map (fun (ident, value) => "\t" ++ ident ++ " = " ++ value) ++ [")"])

/-- The text of a file before it is laid out. -/
def draft (f : File) : String :=
  let q := f.qualifier
  unlines [f.header, "", "package " ++ f.package] ++ f.draftImport ++ "\n" ++
  unlines (f.notices.map ("// " ++ ·)) ++ "\n" ++
  draftVariables (f.classes.map fun d => (d.ident, d.value q)) ++ "\n" ++
  draftVariables (f.enumerations.map fun d => (d.ident, d.value q)) ++ "\n" ++
  (if f.hasInit then unlines ("" :: f.initLines q) else "") ++ "\n" ++
  (if f.omissions.isEmpty then "" else unlines ("" :: f.omissionLines)) ++ "\n"

end File

end ModelCompiler.Source
