import EntityDiagram.Proofs.Diagram.Escaped
import EntityDiagram.Proofs.Diagram.Levels
import Mathlib.Data.List.Nodup

/-!
# Keys of columns

The line of a column starts with its key, which is the name of the column after reserved words have
been escaped.  What is escaped looks like the escaped form of another name, and an escaped form is
left as it is, so two columns of one table can come to bear the same key.  The main statement is
`columnKeys_nodup_iff`: they do exactly if one of them is named by the reserved word and the other
by its escaped form.
-/

namespace EntityDiagram

open MonadAttach (CanReturn)

/-- The key of a line: the identifier that it starts with. -/
def Source.key (line : Text) : Text :=
  line.takeWhile Text.isIdentifier

/-- The tables on a sheet, those of an entity in a row. -/
def Sheet.tables (sheet : Sheet) : List ShownTable :=
  sheet.entities.flatMap fun entity => entity.own :: entity.nested

/-- The names of siblings are identifiers, and no two of them are the same. -/
def Forest.HasDistinctIdentifiers (forest : Forest) : Prop :=
  ∀ level, forest.IsLevel level →
    (level.map Node.name).Nodup ∧ ∀ node ∈ level, ∀ c ∈ node.name, Text.isIdentifier c = true

/-! ### Lines of columns -/

theorem ShownColumn.key_line (column : ShownColumn)
    (identifier : ∀ c ∈ column.name, Text.isIdentifier c = true) :
    Source.key column.line = column.name := by
  have stops : Text.isIdentifier (CodePoint.char ':') = false := by decide
  have colon (rest : Text) : (": " : Text) ++ rest = CodePoint.char ':' :: (" " ++ rest) := rfl
  rw [Source.key, line_eq, colon, List.takeWhile_append_of_pos identifier,
    List.takeWhile_cons_of_neg (by simp [stops]), List.append_nil]

theorem ShownTable.keys_escaped (table : ShownTable)
    (identifier : ∀ column ∈ table.columns, ∀ c ∈ column.name, Text.isIdentifier c = true) :
    (table.rename escapeReserved).lines.map Source.key =
      table.columns.map fun column => escapeReserved column.name := by
  rw [lines, rename, List.map_map, List.map_map]
  refine List.map_congr_left fun column member => ?_
  exact (column.rename escapeReserved).key_line
    (isIdentifier_escapeReserved (identifier column member))

/-- Different identifiers stay different when they are escaped, unless the reserved word and its
escaped form are both among them. -/
theorem map_escapeReserved_nodup_iff {names : List Text} (distinct : names.Nodup)
    (identifier : ∀ name ∈ names, ∀ c ∈ name, Text.isIdentifier c = true) :
    (names.map escapeReserved).Nodup ↔
      ¬ (Text.ofString "label" ∈ names ∧ Text.ofString "_label" ∈ names) := by
  constructor
  · rintro escaped ⟨reserved, marked⟩
    have merged :
        escapeReserved (Text.ofString "label") = escapeReserved (Text.ofString "_label") := by
      decide
    exact absurd (List.inj_on_of_nodup_map escaped reserved marked merged) (by decide)
  · intro apart
    refine List.Nodup.map_on ?_ distinct
    intro name member other otherMember same
    rcases (escapeReserved_eq_iff (identifier name member) (identifier other otherMember)).mp same
      with equal | ⟨rfl, rfl⟩ | ⟨rfl, rfl⟩
    · exact equal
    · exact (apart ⟨member, otherMember⟩).elim
    · exact (apart ⟨otherMember, member⟩).elim

/-! ### Tables of a rendering -/

theorem Sheet.tables_rename (sheet : Sheet) (change : Text → Text) :
    (sheet.rename change).tables = sheet.tables.map (ShownTable.rename change) := by
  simp [tables, rename, ShownEntity.rename, List.flatMap_map, List.map_flatMap]

theorem tables_sheetOf (drawings : List Drawing) :
    (sheetOf drawings).tables = (drawings.flatMap Drawing.tables).map Table.shown := by
  simp [Sheet.tables, sheetOf, Drawing.shown, Drawing.tables, tablesOf, Table.shown,
    List.flatMap_map, List.map_flatMap, Function.comp_def]

section

variable {m : Type → Type} [MonadAttach m] {naming : Naming m}

/-- The tables on the sheet of some drawings are for levels of the models that are drawn. -/
theorem exists_level_of_mem_tables {models : List EntityModel} {drawings : List Drawing}
    (draws : List.Forall₂ (fun model drawing => drawing.Draws naming model) models drawings)
    {table : ShownTable} (member : table ∈ (sheetOf drawings).tables) :
    ∃ model ∈ models, ∃ level, model.forest.IsLevel level ∧
      table.columns.map ShownColumn.name = level.map Node.name := by
  rw [tables_sheetOf] at member
  obtain ⟨drawn, inDrawings, rfl⟩ := List.mem_map.mp member
  obtain ⟨drawing, drawingMember, inDrawing⟩ := List.mem_flatMap.mp inDrawings
  obtain ⟨model, modelMember, drawingOf⟩ := exists_model_of_mem draws drawingMember
  obtain ⟨level, isLevel, columns⟩ := drawingOf.fields.isLevel inDrawing
  refine ⟨model, modelMember, level, isLevel, ?_⟩
  rw [Table.shown, columns, List.map_map, List.map_map]
  rfl

end

section

variable {m : Type → Type} [Monad m] [LawfulMonad m] [MonadAttach m] [LawfulMonadAttach m]

/-- In the text of a full diagram of models of which the names of siblings are different
identifiers, each table has the lines of one level, and two of these lines have the same key exactly
if the level has both a node named by the reserved word and one named by its escaped form.  The
naming may fail, count or draw random numbers. -/
theorem columnKeys_nodup_iff {naming : Naming m} {models : List EntityModel}
    (identifiers : ∀ model ∈ models, model.forest.HasDistinctIdentifiers)
    {recorder : Recorder} {answer : Text × Recorder}
    (rendered : CanReturn (Recorder.render naming models recorder) answer) :
    ∃ drawings, List.Forall₂ (fun model drawing => drawing.Draws naming model) models drawings ∧
      answer.1 = ((sheetOf drawings).rename escapeReserved).text ∧
      ∀ table ∈ ((sheetOf drawings).rename escapeReserved).tables,
        ∃ model ∈ models, ∃ level, model.forest.IsLevel level ∧
          table.lines.map Source.key = (level.map Node.name).map escapeReserved ∧
          ((table.lines.map Source.key).Nodup ↔
            ¬ (Text.ofString "label" ∈ level.map Node.name ∧
              Text.ofString "_label" ∈ level.map Node.name)) := by
  obtain ⟨drawings, draws, rfl⟩ := Recorder.render_draws rendered
  refine ⟨drawings, draws, ?_, fun table member => ?_⟩
  · rw [drawingsText_eq, Sheet.escapeReserved_text]
  · rw [Sheet.tables_rename] at member
    obtain ⟨shown, shownMember, rfl⟩ := List.mem_map.mp member
    obtain ⟨model, modelMember, level, isLevel, names⟩ :=
      exists_level_of_mem_tables draws shownMember
    obtain ⟨distinct, identifier⟩ := identifiers model modelMember level isLevel
    have identifierNames : ∀ name ∈ level.map Node.name, ∀ c ∈ name,
        Text.isIdentifier c = true :=
      List.forall_mem_map.mpr identifier
    have keys : (shown.rename escapeReserved).lines.map Source.key =
        (level.map Node.name).map escapeReserved := by
      rw [← names] at identifierNames ⊢
      rw [shown.keys_escaped (List.forall_mem_map.mp identifierNames), List.map_map]
      rfl
    refine ⟨model, modelMember, level, isLevel, keys, ?_⟩
    rw [keys]
    exact map_escapeReserved_nodup_iff distinct identifierNames

end

/-! ### A reserved word beside its escaped form -/

def stringNode (name : Text) : Node :=
  ⟨name, .text "String", Options.none, none⟩

/-- A model with the reserved word and its escaped form in different tables. -/
def apartModel : EntityModel where
  name := .text "A"
  forest := [stringNode "label", ⟨"box", .text "Array", Options.none, some [stringNode "_label"]⟩]
  instanceMethods := []
  staticMethods := []

theorem apartModel_levels {level : List Node} (isLevel : apartModel.forest.IsLevel level) :
    level = apartModel.forest ∨ level = [stringNode "_label"] ∨ level = [] := by
  induction isLevel with
  | top => exact .inl rfl
  | children _ member ih =>
      rcases ih with rfl | rfl | rfl
      · simp only [apartModel, List.mem_cons, List.not_mem_nil, or_false] at member
        rcases member with rfl | rfl
        · exact .inr (.inr rfl)
        · exact .inr (.inl rfl)
      · rw [List.mem_singleton] at member
        subst member
        exact .inr (.inr rfl)
      · cases member

theorem apartModel_identifiers : apartModel.forest.HasDistinctIdentifiers := by
  intro level isLevel
  rcases apartModel_levels isLevel with rfl | rfl | rfl
  · exact ⟨by decide, by decide⟩
  · exact ⟨by decide, by decide⟩
  · exact ⟨List.nodup_nil, fun _ member => nomatch member⟩

theorem apartModel_keys_nodup :
    ∃ drawings,
      (Id.run (Recorder.render (Naming.ofFunction fun _ field => field) [apartModel]
          Recorder.start)).1 = ((sheetOf drawings).rename escapeReserved).text ∧
        ∀ table ∈ ((sheetOf drawings).rename escapeReserved).tables,
          (table.lines.map Source.key).Nodup := by
  have identifiers : ∀ model ∈ [apartModel], model.forest.HasDistinctIdentifiers :=
    List.forall_mem_singleton.mpr apartModel_identifiers
  have rendered : CanReturn
      (Recorder.render (Naming.ofFunction fun _ field => field) [apartModel] Recorder.start)
      (Id.run (Recorder.render (Naming.ofFunction fun _ field => field) [apartModel]
        Recorder.start)) :=
    rfl
  obtain ⟨drawings, -, text, keys⟩ := columnKeys_nodup_iff identifiers rendered
  refine ⟨drawings, text, fun table member => ?_⟩
  obtain ⟨model, modelMember, level, isLevel, -, nodup_iff⟩ := keys table member
  obtain rfl := List.mem_singleton.mp modelMember
  rw [nodup_iff]
  rcases apartModel_levels isLevel with rfl | rfl | rfl <;> decide

/-- A model with the reserved word and its escaped form side by side. -/
def besideModel : EntityModel where
  name := .text "A"
  forest := [stringNode "label", stringNode "_label"]
  instanceMethods := []
  staticMethods := []

theorem besideModel_levels {level : List Node} (isLevel : besideModel.forest.IsLevel level) :
    level = besideModel.forest ∨ level = [] := by
  induction isLevel with
  | top => exact .inl rfl
  | children _ member ih =>
      rcases ih with rfl | rfl
      · simp only [besideModel, List.mem_cons, List.not_mem_nil, or_false] at member
        rcases member with rfl | rfl <;> exact .inr rfl
      · cases member

/-- The escape merges the columns of the two: both are written with the same key. -/
theorem besideModel_keys_merge :
    besideModel.forest.HasDistinctIdentifiers ∧
      ∃ lines : List Text,
        (Id.run (Recorder.render (Naming.ofFunction fun _ field => field) [besideModel]
            Recorder.start)).1 = Source.table "A" lines ∧
          lines.map Source.key = ["_label", "_label"] ∧ ¬ (lines.map Source.key).Nodup := by
  constructor
  · intro level isLevel
    rcases besideModel_levels isLevel with rfl | rfl
    · exact ⟨by decide, by decide⟩
    · exact ⟨List.nodup_nil, fun _ member => nomatch member⟩
  · refine ⟨["_label: String\n", "_label: String\n"], ?_, by decide, by decide⟩
    have drawn : [besideModel].map (drawPurely fun _ field => field) =
        [⟨"A", [.column "label" "String" none, .column "_label" "String" none], [], []⟩] :=
      rfl
    rw [Recorder.render_ofFunction, fullDiagram, drawn, drawingsText_eq]
    simp only [sheetOf, List.map_cons, List.map_nil, Drawing.shown, nestedTables,
      List.flatMap_cons, List.flatMap_nil, Drawing.relations, relationsOf, columnRelations]
    rfl

end EntityDiagram
