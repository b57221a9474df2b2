import EntityDiagram.Failure
import EntityDiagram.Model

/-!
# The log

The program logs what it does. Entries for debugging are written only when they are asked for.
-/

namespace EntityDiagram

inductive Level where
  | debug
  | info
  | error
deriving DecidableEq, Repr

def Level.name : Level → String
  | debug => "DEBUG"
  | info => "INFO"
  | error => "ERROR"

structure LogEntry where
  level : Level
  component : String
  message : Text
deriving DecidableEq, Repr

namespace LogEntry

def text (entry : LogEntry) : Text :=
  entry.level.name ++ Text.ofString " " ++ entry.component ++ ": " ++ entry.message ++ "\n"

def started : LogEntry := ⟨.info, "schema_to_d2.cli", "Generating schema..."⟩

def collected (model : EntityModel) : LogEntry :=
  ⟨.debug, "schema_to_d2.structure",
    "Collected " ++ model.name.display ++ ": " ++ toString model.forest.length ++
      " top-level fields"⟩

def written (path : PathName) : LogEntry :=
  ⟨.info, "schema_to_d2.render_svg", "Wrote " ++ path.text⟩

def failed (failure : Failure) : LogEntry := ⟨.error, "schema_to_d2.cli", failure.message⟩

end LogEntry

end EntityDiagram
