import EntityDiagram.Diagram.Full

/-!
# What a diagram shows

A sheet is what a full diagram shows: the tables of each entity with their columns, the methods of
the entities, and the edges between tables.  Its text is the diagram before reserved words are
escaped, and the names in it can be changed one by one.
-/

namespace EntityDiagram

/-- A constraint as it is written: the target of a reference stands in its edge. -/
inductive Mark where
  | unique
  | foreignKey
  | primaryKey
deriving DecidableEq, Repr

def Mark.word : Mark → String
  | unique => "unique"
  | foreignKey => "foreign_key"
  | primaryKey => "primary_key"

structure ShownColumn where
  name : Text
  kind : Text
  mark : Option Mark
deriving DecidableEq, Repr

structure ShownTable where
  name : Text
  columns : List ShownColumn
deriving DecidableEq, Repr

/-- The tables of an entity.  Its methods stand in its own one. -/
structure ShownEntity where
  own : ShownTable
  instanceMethods : List Text
  staticMethods : List Text
  nested : List ShownTable
deriving DecidableEq, Repr

structure ShownEdge where
  table : Text
  field : Text
  target : Text
deriving DecidableEq, Repr

structure Sheet where
  entities : List ShownEntity
  edges : List ShownEdge
deriving DecidableEq, Repr

/-! ### Texts -/

def ShownColumn.line (column : ShownColumn) : Text :=
  Source.fieldLine column.name column.kind (column.mark.map fun mark => mark.word)

def ShownTable.lines (table : ShownTable) : List Text :=
  table.columns.map ShownColumn.line

def ShownTable.text (table : ShownTable) : Text :=
  Source.table table.name table.lines

namespace ShownEntity

/-- Methods of instances come before those of the entity itself. -/
def methodLines (entity : ShownEntity) : List Text :=
  entity.instanceMethods.map (Source.methodLine · "instanceMethod") ++
    entity.staticMethods.map (Source.methodLine · "staticMethod")

/-- The methods of an entity stand in its own table, behind all columns. -/
def ownText (entity : ShownEntity) : Text :=
  Source.table entity.own.name (entity.own.lines ++ entity.methodLines)

def text (entity : ShownEntity) : Text :=
  Text.joinWith "\n\n" (entity.ownText :: entity.nested.map ShownTable.text)

end ShownEntity

def ShownEdge.line (edge : ShownEdge) : Text :=
  Source.edgeLine (edge.table ++ "." ++ edge.field) edge.target

def Sheet.text (sheet : Sheet) : Text :=
  Text.joinWith "\n" (sheet.entities.map ShownEntity.text) ++
    Text.join (sheet.edges.map ShownEdge.line)

/-! ### Names -/

section

variable (change : Text → Text)

def ShownColumn.rename (column : ShownColumn) : ShownColumn :=
  { column with name := change column.name, kind := change column.kind }

def ShownTable.rename (table : ShownTable) : ShownTable where
  name := change table.name
  columns := table.columns.map (ShownColumn.rename change)

def ShownEntity.rename (entity : ShownEntity) : ShownEntity where
  own := entity.own.rename change
  instanceMethods := entity.instanceMethods.map change
  staticMethods := entity.staticMethods.map change
  nested := entity.nested.map (ShownTable.rename change)

def ShownEdge.rename (edge : ShownEdge) : ShownEdge where
  table := change edge.table
  field := change edge.field
  target := change edge.target

/-- Changes every name on a sheet: of tables, columns, kinds and methods, and in edges. -/
def Sheet.rename (sheet : Sheet) : Sheet where
  entities := sheet.entities.map (ShownEntity.rename change)
  edges := sheet.edges.map (ShownEdge.rename change)

end

/-! ### The sheet of drawings -/

def Constraint.mark : Constraint → Mark
  | unique => .unique
  | foreignKey _ => .foreignKey
  | primaryKey => .primaryKey

def Column.shown (column : Column) : ShownColumn :=
  ⟨column.name, column.kind, column.constraint.map Constraint.mark⟩

def Table.shown (table : Table) : ShownTable :=
  ⟨table.name, table.columns.map Column.shown⟩

def Relation.shown (relation : Relation) : ShownEdge :=
  ⟨relation.table, relation.field, relation.target.display⟩

def Drawing.shown (drawing : Drawing) : ShownEntity where
  own := ⟨drawing.name, drawing.fields.map (Column.shown ∘ Field.toColumn)⟩
  instanceMethods := drawing.instanceMethods
  staticMethods := drawing.staticMethods
  nested := (nestedTables drawing.fields).map Table.shown

def sheetOf (drawings : List Drawing) : Sheet where
  entities := drawings.map Drawing.shown
  edges := (drawings.flatMap Drawing.relations).map Relation.shown

theorem Column.shown_line (column : Column) : column.shown.line = column.line := by
  obtain ⟨name, kind, constraint⟩ := column
  match constraint with
  | none | some .unique | some (.foreignKey _) | some .primaryKey => rfl

theorem Table.shown_text (table : Table) :
    table.shown.text = Source.table table.name table.lines := by
  simp [Table.shown, ShownTable.text, ShownTable.lines, Table.lines, Column.shown_line,
    Function.comp_def]

theorem Drawing.shown_ownText (drawing : Drawing) :
    drawing.shown.ownText = drawing.ownFragment := by
  simp [Drawing.shown, ShownEntity.ownText, ShownTable.lines, ShownEntity.methodLines,
    Drawing.ownFragment, Drawing.methodLines, Column.shown_line, Function.comp_def]

theorem Drawing.shown_text (drawing : Drawing) : drawing.shown.text = drawing.text := by
  rw [ShownEntity.text, Drawing.shown_ownText]
  simp [Drawing.shown, Drawing.text, Drawing.fragments, Table.shown_text, Function.comp_def]

/-- Drawings are written as their sheet, with all reserved words escaped. -/
theorem drawingsText_eq (drawings : List Drawing) :
    drawingsText drawings = escapeReserved (sheetOf drawings).text := by
  have tables : drawings.map (ShownEntity.text ∘ Drawing.shown) = drawings.map Drawing.text :=
    List.map_congr_left fun drawing _ => drawing.shown_text
  have edges (relations : List Relation) :
      relations.map (ShownEdge.line ∘ Relation.shown) = relations.map Relation.line := rfl
  rw [drawingsText, Sheet.text, sheetOf, List.map_map, List.map_map, tables, edges]
  rfl

end EntityDiagram
