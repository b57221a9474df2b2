import EntityDiagram.Diagram.Field

/-!
# Tables and relations

The fields of a table are walked in order, each container before the fields after it. The walk
gives the tables that are drawn and the relations between them.
-/

namespace EntityDiagram

structure Column where
  name : Text
  kind : Text
  constraint : Option Constraint
deriving Repr

structure Table where
  name : Text
  columns : List Column
deriving Repr

/-- A relation leads from a field of a table to another table. -/
structure Relation where
  table : Text
  field : Text
  target : Value
  cardinality : Cardinality
deriving Repr

def Relation.source (relation : Relation) : Text :=
  relation.table ++ "." ++ relation.field

def Relation.edge (relation : Relation) : Text :=
  relation.source ++ " -> " ++ relation.target.display

/-- The column of a field. A container is a column without constraint. -/
def Field.toColumn : Field → Column
  | column name kind constraint => ⟨name, kind, constraint⟩
  | container name kind _ _ _ => ⟨name, kind, none⟩

def nestedTables : List Field → List Table
  | [] => []
  | .column _ _ _ :: rest => nestedTables rest
  | .container _ _ _ _ [] :: rest => nestedTables rest
  | .container _ _ _ table (field :: fields) :: rest =>
      ⟨table, (field :: fields).map Field.toColumn⟩ :: nestedTables (field :: fields) ++
        nestedTables rest

def tablesOf (name : Text) (fields : List Field) : List Table :=
  ⟨name, fields.map Field.toColumn⟩ :: nestedTables fields

/-- The relation of a column, which a foreign key has. -/
def columnRelations (table name : Text) : Option Constraint → List Relation
  | some (.foreignKey target) => [⟨table, name, target, .oneToOne⟩]
  | _ => []

def relationsOf (table : Text) : List Field → List Relation
  | [] => []
  | .column name _ constraint :: rest =>
      columnRelations table name constraint ++ relationsOf table rest
  | .container name _ cardinality target fields :: rest =>
      ⟨table, name, .text target, cardinality⟩ :: relationsOf target fields ++
        relationsOf table rest

def Column.line (column : Column) : Text :=
  Source.fieldLine column.name column.kind (column.constraint.map fun constraint => constraint.word)

def Table.lines (table : Table) : List Text :=
  table.columns.map Column.line

def Relation.line (relation : Relation) : Text :=
  Source.edgeLine relation.source relation.target.display

end EntityDiagram
