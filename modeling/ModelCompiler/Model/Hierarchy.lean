import ModelCompiler.Diagnostic.Journal
import ModelCompiler.Model.Basic

/-! # Generalizations between classes -/

namespace ModelCompiler

/-- A generalization one of whose ends is no class. -/
def Generalization.unknownClass (g : Generalization) : Diagnostic where
  severity := .warning
  code := "unknown_class"
  message := "generalization " ++ g.specific ++ " -> " ++ g.general ++ " does not link two classes"
  element := g.id
  subject := ""

namespace Model

/-- The link that a generalization stands for, if both its ends are classes. -/
def link? (m : Model) (g : Generalization) : Option Link := do
  let specific ← m.class? g.specific
  let general ← m.class? g.general
  some { specific := specific.toClassRef, general := general.toClassRef }

/-- Links the classes of every generalization. -/
def linkClasses (m : Model) : Model :=
  { m with
    hierarchy := m.generalizations.foldl (fun h g => ((m.link? g).map h.add).getD h) m.hierarchy }

/-- The warnings for the generalizations that link nothing. -/
def unlinked (m : Model) : List Diagnostic :=
  (m.generalizations.filter fun g => (m.link? g).isNone).map Generalization.unknownClass

end Model

end ModelCompiler
