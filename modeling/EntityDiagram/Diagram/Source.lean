import EntityDiagram.Text

/-!
# Diagram source

The lines and blocks of the diagram language: tables with a line for each column and method, bare
tables, and edges between them.
-/

namespace EntityDiagram.Source

/-- The line of a column; an empty constraint is not written. -/
def fieldLine (name kind : Text) (constraint : Option Text) : Text :=
  let marked : Text := match constraint with
    | none => ""
    | some word => if word.isEmpty then "" else " \x7bconstraint: " ++ word ++ "\x7d"
  name ++ ": " ++ kind ++ marked ++ "\n"

def methodLine (name kind : Text) : Text :=
  name ++ "(): " ++ kind ++ "\n"

def table (name : Text) (lines : List Text) : Text :=
  name ++ ": \x7b\nshape: sql_table\n" ++ Text.join lines ++ "\x7d\n"

/-- A table without lines. -/
def bareTable (name : Text) : Text :=
  name ++ ": \x7bshape: sql_table\x7d\n"

def edgeLine (source target : Text) : Text :=
  source ++ " -> " ++ target ++ "\n"

end EntityDiagram.Source
