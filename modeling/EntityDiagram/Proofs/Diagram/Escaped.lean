import EntityDiagram.Diagram.Minimal
import EntityDiagram.Proofs.Diagram.Rendering
import EntityDiagram.Proofs.Diagram.Sheet
import EntityDiagram.Proofs.Outcome
import EntityDiagram.Proofs.Text.Identifier

/-!
# Escaped diagrams

Reserved words are escaped in the assembled text of a diagram.  All that stands between two names
there is a delimiter: it cuts the identifiers around it and has no reserved word itself.  So the
layout stays as it is, whatever the names are, and each name is escaped on its own.  The main
statement is `diagrams_escape_names`.
-/

namespace EntityDiagram

/-! ### Lines -/

/-- The end of the line of a column. -/
def markTail (mark : Option Mark) : Text :=
  match mark with
  | none => "\n"
  | some mark => " \x7bconstraint: " ++ mark.word ++ "\x7d\n"

theorem markTail_isDelimiter (mark : Option Mark) : (markTail mark).isDelimiter = true := by
  match mark with
  | none | some .unique | some .foreignKey | some .primaryKey => decide

namespace ShownColumn

theorem line_eq (column : ShownColumn) :
    column.line = column.name ++ (": " ++ (column.kind ++ markTail column.mark)) := by
  obtain ⟨name, kind, mark⟩ := column
  match mark with
  | none | some .unique | some .foreignKey | some .primaryKey =>
      simp [line, Source.fieldLine, markTail, Mark.word, Text.ofString, Text.ofChars]

theorem line_isClosed (column : ShownColumn) : column.line.isClosed = true := by
  rw [line_eq, ← List.append_assoc, ← List.append_assoc]
  exact Text.isClosed_append_delimiter _ (markTail_isDelimiter column.mark)

theorem escapeReserved_line (column : ShownColumn) :
    escapeReserved column.line = (column.rename escapeReserved).line := by
  rw [line_eq, line_eq, escapeReserved_delimiter (by decide),
    escapeReserved_delimiter_end (markTail_isDelimiter column.mark)]
  rfl

end ShownColumn

theorem methodLine_eq (name kind : Text) :
    Source.methodLine name kind = name ++ ("(): " ++ kind ++ "\n") := by
  simp [Source.methodLine]

theorem escapeReserved_methodLine {kind : Text}
    (keyword : (("(): " : Text) ++ kind ++ "\n").isDelimiter) (name : Text) :
    escapeReserved (Source.methodLine name kind) =
      Source.methodLine (escapeReserved name) kind := by
  rw [methodLine_eq, methodLine_eq, escapeReserved_delimiter_end keyword]

theorem edgeLine_eq (source target : Text) :
    Source.edgeLine source target = source ++ (" -> " ++ (target ++ "\n")) := by
  simp [Source.edgeLine]

theorem edgeLine_isClosed (source target : Text) :
    (Source.edgeLine source target).isClosed = true := by
  rw [Source.edgeLine]
  exact Text.isClosed_append_delimiter _ (by decide)

theorem escapeReserved_edgeLine (source target : Text) :
    escapeReserved (Source.edgeLine source target) =
      Source.edgeLine (escapeReserved source) (escapeReserved target) := by
  rw [edgeLine_eq, edgeLine_eq, escapeReserved_delimiter (by decide),
    escapeReserved_delimiter_end (by decide)]

theorem ShownEdge.escapeReserved_line (edge : ShownEdge) :
    escapeReserved edge.line = (edge.rename escapeReserved).line := by
  rw [line, escapeReserved_edgeLine, List.append_assoc, escapeReserved_delimiter (by decide),
    ← List.append_assoc]
  rfl

/-! ### Tables -/

theorem table_eq (name : Text) (lines : List Text) :
    Source.table name lines =
      name ++ (": \x7b\nshape: sql_table\n" ++ (Text.join lines ++ "\x7d\n")) := by
  simp [Source.table]

theorem table_isClosed (name : Text) (lines : List Text) :
    (Source.table name lines).isClosed = true :=
  Text.isClosed_append_delimiter _ (by decide)

theorem escapeReserved_table (name : Text) {lines : List Text}
    (closed : ∀ line ∈ lines, line.isClosed = true) :
    escapeReserved (Source.table name lines) =
      Source.table (escapeReserved name) (lines.map escapeReserved) := by
  rw [table_eq, table_eq, escapeReserved_delimiter (by decide),
    escapeReserved_delimiter_end (by decide), escapeReserved_join closed]

theorem ShownTable.lines_closed (table : ShownTable) :
    ∀ line ∈ table.lines, line.isClosed = true := by
  intro line member
  obtain ⟨column, -, rfl⟩ := List.mem_map.mp member
  exact column.line_isClosed

theorem ShownTable.map_escapeReserved_lines (table : ShownTable) :
    table.lines.map escapeReserved = (table.rename escapeReserved).lines := by
  simp [lines, rename, ShownColumn.escapeReserved_line, Function.comp_def]

theorem ShownTable.escapeReserved_text (table : ShownTable) :
    escapeReserved table.text = (table.rename escapeReserved).text := by
  rw [text, escapeReserved_table _ table.lines_closed, map_escapeReserved_lines]
  rfl

namespace ShownEntity

theorem methodLines_closed (entity : ShownEntity) :
    ∀ line ∈ entity.methodLines, line.isClosed = true := by
  intro line member
  rcases List.mem_append.mp member with ofInstances | ofEntity
  · obtain ⟨name, -, rfl⟩ := List.mem_map.mp ofInstances
    exact Text.isClosed_append_delimiter _ (by decide)
  · obtain ⟨name, -, rfl⟩ := List.mem_map.mp ofEntity
    exact Text.isClosed_append_delimiter _ (by decide)

theorem map_escapeReserved_methodLines (entity : ShownEntity) :
    entity.methodLines.map escapeReserved = (entity.rename escapeReserved).methodLines := by
  have instances (name : Text) :
      escapeReserved (Source.methodLine name "instanceMethod") =
        Source.methodLine (escapeReserved name) "instanceMethod" :=
    escapeReserved_methodLine (by decide) name
  have statics (name : Text) :
      escapeReserved (Source.methodLine name "staticMethod") =
        Source.methodLine (escapeReserved name) "staticMethod" :=
    escapeReserved_methodLine (by decide) name
  simp [methodLines, rename, instances, statics, Function.comp_def]

theorem escapeReserved_ownText (entity : ShownEntity) :
    escapeReserved entity.ownText = (entity.rename escapeReserved).ownText := by
  have closed : ∀ line ∈ entity.own.lines ++ entity.methodLines, line.isClosed = true :=
    fun line member => (List.mem_append.mp member).elim
      (entity.own.lines_closed line) (entity.methodLines_closed line)
  rw [ownText, escapeReserved_table _ closed, List.map_append,
    ShownTable.map_escapeReserved_lines, map_escapeReserved_methodLines]
  rfl

theorem escapeReserved_text (entity : ShownEntity) :
    escapeReserved entity.text = (entity.rename escapeReserved).text := by
  rw [text, escapeReserved_joinWith (by decide), List.map_cons, escapeReserved_ownText,
    List.map_map]
  simp [text, rename, ShownTable.escapeReserved_text, Function.comp_def]

theorem text_isClosed (entity : ShownEntity) : entity.text.isClosed = true := by
  refine Text.isClosed_joinWith (by decide) fun fragment member => ?_
  rcases List.mem_cons.mp member with rfl | nested
  · exact table_isClosed _ _
  · obtain ⟨table, -, rfl⟩ := List.mem_map.mp nested
    exact table_isClosed _ _

end ShownEntity

/-- To escape the text of a sheet is to escape its names. -/
theorem Sheet.escapeReserved_text (sheet : Sheet) :
    escapeReserved sheet.text = (sheet.rename escapeReserved).text := by
  have tablesClosed :
      (Text.joinWith "\n" (sheet.entities.map ShownEntity.text)).isClosed = true := by
    refine Text.isClosed_joinWith (by decide) fun text member => ?_
    obtain ⟨entity, -, rfl⟩ := List.mem_map.mp member
    exact entity.text_isClosed
  have edgesClosed : ∀ line ∈ sheet.edges.map ShownEdge.line, line.isClosed = true := by
    intro line member
    obtain ⟨edge, -, rfl⟩ := List.mem_map.mp member
    exact edgeLine_isClosed _ _
  rw [text, escapeReserved_append tablesClosed, escapeReserved_joinWith (by decide),
    escapeReserved_join edgesClosed]
  simp [text, rename, ShownEntity.escapeReserved_text, ShownEdge.escapeReserved_line,
    Function.comp_def]

/-! ### Methods -/

/-- The part of a text before the last occurrence of a mark. -/
def Text.beforeLast? (mark : Text) : Text → Option Text
  | [] => if mark.isEmpty then some [] else none
  | c :: rest =>
      match beforeLast? mark rest with
      | some front => some (c :: front)
      | none => if mark.isPrefixOf (c :: rest) then some [] else none

/-- Puts lines before the last closing brace of a block. -/
def Source.insertLines? (lines : List Text) (block : Text) : Option Text :=
  (Text.beforeLast? "\x7d\n" block).map fun front => front ++ Text.join lines ++ "\x7d\n"

theorem Text.beforeLast?_eq_none {mark text : Text} (shorter : text.length < mark.length) :
    beforeLast? mark text = none := by
  induction text with
  | nil =>
      have nonempty : mark ≠ [] := List.ne_nil_of_length_pos shorter
      simp [beforeLast?, nonempty]
  | cons c text ih =>
      have notPrefix : ¬ mark <+: c :: text := fun isPrefix =>
        absurd isPrefix.length_le (Nat.not_le.mpr shorter)
      simp [beforeLast?, ih (Nat.lt_of_succ_lt shorter), notPrefix]

/-- What ends with a mark has its last occurrence there, whatever stands before it. -/
theorem Text.beforeLast?_append {mark : Text} (nonempty : mark ≠ []) (front : Text) :
    beforeLast? mark (front ++ mark) = some front := by
  induction front with
  | nil =>
      cases mark with
      | nil => exact (nonempty rfl).elim
      | cons c mark =>
          have noneBehind : beforeLast? (c :: mark) mark = none :=
            beforeLast?_eq_none (Nat.lt_succ_self mark.length)
          simp [beforeLast?, noneBehind]
  | cons c front ih => rw [List.cons_append, beforeLast?, ih]

/-- Lines that are put before the last closing brace of a table stand behind its other lines. -/
theorem Source.insertLines?_table (name : Text) (lines more : List Text) :
    Source.insertLines? more (Source.table name lines) =
      some (Source.table name (lines ++ more)) := by
  rw [Source.insertLines?, Source.table, Text.beforeLast?_append (by decide), Option.map_some]
  simp [Source.table, Text.join]

/-! ### The minimal diagram -/

/-- The lines of a model in the minimal diagram, with a change to each name in them. -/
def minimalLinesBy (change : Text → Text) (model : EntityModel) : List Text :=
  Source.bareTable (change model.name.display) ::
    model.forest.filterMap fun node =>
      if node.options.ref.isTruthy then
        some (Source.edgeLine (change model.name.display) (change node.options.ref.display))
      else none

theorem minimalLines_closed (model : EntityModel) :
    ∀ line ∈ minimalLines model, line.isClosed = true := by
  intro line member
  rcases List.mem_cons.mp member with rfl | reference
  · exact Text.isClosed_append_delimiter _ (by decide)
  · obtain ⟨node, -, given⟩ := List.mem_filterMap.mp reference
    unfold referenceLine? at given
    split at given
    · rw [← Option.some.inj given]
      exact edgeLine_isClosed _ _
    · cases given

theorem map_escapeReserved_minimalLines (model : EntityModel) :
    (minimalLines model).map escapeReserved = minimalLinesBy escapeReserved model := by
  have bareTable : escapeReserved (Source.bareTable model.name.display) =
      Source.bareTable (escapeReserved model.name.display) :=
    escapeReserved_delimiter_end (by decide) _
  have reference (node : Node) :
      (referenceLine? model.name.display node).map escapeReserved =
        if node.options.ref.isTruthy then
          some (Source.edgeLine (escapeReserved model.name.display)
            (escapeReserved node.options.ref.display))
        else none := by
    unfold referenceLine?
    split
    · rw [Option.map_some, escapeReserved_edgeLine]
    · rfl
  rw [minimalLines, List.map_cons, bareTable, List.map_filterMap, minimalLinesBy]
  simp only [reference]

theorem minimalDiagram_eq (models : List EntityModel) :
    minimalDiagram models = Text.join (models.flatMap (minimalLinesBy escapeReserved)) := by
  have closed : ∀ line ∈ models.flatMap minimalLines, line.isClosed = true := by
    intro line member
    obtain ⟨model, -, inModel⟩ := List.mem_flatMap.mp member
    exact minimalLines_closed model line inModel
  rw [minimalDiagram, escapeReserved_join closed, List.map_flatMap]
  simp only [map_escapeReserved_minimalLines]

theorem writeMinimal_eq {models : List EntityModel}
    (writable : ∀ model ∈ models, model.name.isWritable = true) :
    writeMinimal models = .ok (minimalDiagram models) := by
  have checks : (models.forM fun model => discard model.name.written) = .ok () := by
    refine forM_eq_ok_iff.mpr fun model member => ?_
    rw [discard_eq_ok_iff, Scalar.written, if_pos (writable model member)]
    exact ⟨_, rfl⟩
  rw [writeMinimal, checks]
  rfl

/-- The text of an entity is made of what is drawn for it, with its methods put before the last
closing brace of the first table. -/
theorem shown_text_eq (drawing : Drawing) :
    ∃ first own nested, tableFragments drawing.name drawing.fields = first :: nested ∧
      Source.insertLines? drawing.methodLines first = some own ∧
      drawing.shown.text = Text.joinWith "\n\n" (own :: nested) := by
  refine ⟨Source.table drawing.name (drawing.fields.map (Column.line ∘ Field.toColumn)),
    drawing.ownFragment, _, ?_, Source.insertLines?_table _ _ _, drawing.shown_text⟩
  simp [tableFragments, tablesOf, Table.lines]

/-- The text of a full diagram is that of its sheet with every name escaped on its own, and so is
the text of a minimal one; methods stand in the first table of their entity only. -/
theorem diagrams_escape_names (naming : Text → Text → Text) (models : List EntityModel)
    (recorder : Recorder) :
    let drawings := models.map (drawPurely naming)
    let rendered := Id.run (Recorder.render (Naming.ofFunction naming) models recorder)
    rendered.1 = escapeReserved (sheetOf drawings).text ∧
      rendered.1 = ((sheetOf drawings).rename escapeReserved).text ∧
      (∀ drawing ∈ drawings, ∃ first own nested,
        tableFragments drawing.name drawing.fields = first :: nested ∧
          Source.insertLines? drawing.methodLines first = some own ∧
          drawing.shown.text = Text.joinWith "\n\n" (own :: nested)) ∧
      minimalDiagram models = Text.join (models.flatMap (minimalLinesBy escapeReserved)) ∧
      ((∀ model ∈ models, model.name.isWritable = true) →
        writeMinimal models = .ok (minimalDiagram models)) := by
  have rendered : (Id.run (Recorder.render (Naming.ofFunction naming) models recorder)).1 =
      escapeReserved (sheetOf (models.map (drawPurely naming))).text := by
    rw [Recorder.render_ofFunction, ← drawingsText_eq]
    rfl
  refine ⟨rendered, ?_, fun drawing _ => shown_text_eq drawing, minimalDiagram_eq models,
    writeMinimal_eq⟩
  rw [rendered, Sheet.escapeReserved_text]

/-- A model that bears a reserved word as its name, with a column and a method of that name. -/
def labelModel : EntityModel where
  name := .text "label"
  forest := [⟨"label", .text "ObjectID", ⟨false, false, .text "label"⟩, none⟩]
  instanceMethods := [.text "label"]
  staticMethods := []

def labelSheet : Sheet where
  entities := [⟨⟨"label", [⟨"label", "ObjectID", some .foreignKey⟩]⟩, ["label"], [], []⟩]
  edges := [⟨"label", "label", "label"⟩]

theorem labelModel_shown :
    sheetOf ([labelModel].map (drawPurely fun _ field => field)) = labelSheet := by
  have drawn : [labelModel].map (drawPurely fun _ field => field) =
      [⟨"label", [.column "label" "ObjectID" (some (.foreignKey (.text "label")))], ["label"],
        []⟩] :=
    rfl
  simp only [drawn, sheetOf, List.map_cons, List.map_nil, Drawing.shown, nestedTables,
    List.flatMap_cons, List.flatMap_nil, Drawing.relations, relationsOf, columnRelations]
  rfl

theorem labelModel_escaped :
    (Id.run (Recorder.render (Naming.ofFunction fun _ field => field) [labelModel]
        Recorder.start)).1 =
      Text.join (["_label: \x7b\n", "shape: sql_table\n",
        "_label: ObjectID \x7bconstraint: foreign_key\x7d\n", "_label(): instanceMethod\n",
        "\x7d\n", "_label._label -> _label\n"].map Text.ofString) ∧
    writeMinimal [labelModel] = .ok "_label: \x7bshape: sql_table\x7d\n_label -> _label\n" := by
  obtain ⟨-, full, -, minimal, written⟩ :=
    diagrams_escape_names (fun _ field => field) [labelModel] Recorder.start
  rw [labelModel_shown] at full
  refine ⟨full.trans rfl, ?_⟩
  rw [written (by decide), minimal]
  rfl

end EntityDiagram
