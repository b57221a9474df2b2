import EntityDiagram.Proofs.Diagram.Escaped

/-!
# Diagrams of several models

The text of a full diagram has two parts, the tables of all entities and the edges of all entities;
reserved words are escaped in both at once.  Each part is put together from what every model is
drawn with on its own, so a model adds to a diagram and changes nothing else in it.  The main
statement is `render_assembled`.
-/

namespace EntityDiagram

theorem Text.joinWith_append {before later : List Text} (nonempty : before ≠ [])
    (laterNonempty : later ≠ []) (separator : Text) :
    Text.joinWith separator (before ++ later) =
      Text.joinWith separator before ++ separator ++ Text.joinWith separator later := by
  obtain ⟨text, before, rfl⟩ := List.exists_cons_of_ne_nil nonempty
  obtain ⟨next, later, rfl⟩ := List.exists_cons_of_ne_nil laterNonempty
  simp [joinWith_cons]

/-! ### Drawings -/

theorem Drawing.text_isClosed (drawing : Drawing) : drawing.text.isClosed = true := by
  rw [← drawing.shown_text]
  exact drawing.shown.text_isClosed

theorem tablesText_isClosed (drawings : List Drawing) : (tablesText drawings).isClosed = true := by
  refine Text.isClosed_joinWith (by decide) fun text member => ?_
  obtain ⟨drawing, -, rfl⟩ := List.mem_map.mp member
  exact drawing.text_isClosed

/-- Tables are escaped one by one. -/
theorem escapeReserved_tablesText (drawings : List Drawing) :
    escapeReserved (tablesText drawings) =
      Text.joinWith "\n" (drawings.map fun drawing =>
        Text.joinWith "\n\n" (drawing.fragments.map escapeReserved)) := by
  rw [tablesText, escapeReserved_joinWith (by decide), List.map_map]
  refine congrArg (Text.joinWith "\n") (List.map_congr_left fun drawing _ => ?_)
  exact escapeReserved_joinWith (by decide) drawing.fragments

/-- Edges are escaped one by one. -/
theorem escapeReserved_edgesText (relations : List Relation) :
    escapeReserved (edgesText relations) =
      Text.join (relations.map fun relation => escapeReserved relation.line) := by
  have closed : ∀ line ∈ relations.map Relation.line, line.isClosed = true := by
    intro line member
    obtain ⟨relation, -, rfl⟩ := List.mem_map.mp member
    exact edgeLine_isClosed _ _
  rw [edgesText, escapeReserved_join closed, List.map_map]
  rfl

/-! ### The parts of a diagram -/

section

variable (naming : Text → Text → Text)

/-- The part of a full diagram that has the tables of the entities. -/
def tablesPart (models : List EntityModel) : Text :=
  escapeReserved (tablesText (models.map (drawPurely naming)))

/-- The part of a full diagram that has the edges of all entities, behind all tables. -/
def edgesPart (models : List EntityModel) : Text :=
  escapeReserved (edgesText (fullRelations naming models))

theorem fullDiagram_eq_parts (models : List EntityModel) :
    fullDiagram naming models = tablesPart naming models ++ edgesPart naming models := by
  rw [fullDiagram, drawingsText, escapeReserved_append (tablesText_isClosed _)]
  rfl

theorem tablesPart_eq (models : List EntityModel) :
    tablesPart naming models = Text.joinWith "\n" (models.map fun model =>
      Text.joinWith "\n\n" ((drawPurely naming model).fragments.map escapeReserved)) := by
  rw [tablesPart, escapeReserved_tablesText, List.map_map]
  rfl

theorem fullRelations_eq (models : List EntityModel) :
    fullRelations naming models =
      models.flatMap fun model => (drawPurely naming model).relations := by
  rw [fullRelations, List.flatMap_map]

theorem edgesPart_eq (models : List EntityModel) :
    edgesPart naming models = Text.join (models.flatMap fun model =>
      (drawPurely naming model).relations.map fun relation => escapeReserved relation.line) := by
  rw [edgesPart, escapeReserved_edgesText, fullRelations_eq, List.map_flatMap]

/-- A rendering is the tables part and the edges part of its models, both of which are made of what
each model is drawn with on its own.  So the parts of models in two lists are put together from the
parts of the lists. -/
theorem render_assembled (recorder : Recorder) :
    (∀ models, Id.run (Recorder.render (Naming.ofFunction naming) models recorder) =
      (tablesPart naming models ++ edgesPart naming models, ⟨fullRelations naming models⟩)) ∧
    (∀ before later : List EntityModel, before ≠ [] → later ≠ [] →
      tablesPart naming (before ++ later) =
          tablesPart naming before ++ "\n" ++ tablesPart naming later ∧
        edgesPart naming (before ++ later) = edgesPart naming before ++ edgesPart naming later ∧
        fullRelations naming (before ++ later) =
          fullRelations naming before ++ fullRelations naming later) ∧
    ∀ models : List EntityModel,
      tablesPart naming models = Text.joinWith "\n" (models.map fun model =>
          Text.joinWith "\n\n" ((drawPurely naming model).fragments.map escapeReserved)) ∧
        edgesPart naming models = Text.join (models.flatMap fun model =>
          (drawPurely naming model).relations.map fun relation => escapeReserved relation.line) ∧
        fullRelations naming models =
          models.flatMap fun model => (drawPurely naming model).relations := by
  refine ⟨fun models => ?_, fun before later nonempty laterNonempty => ⟨?_, ?_, ?_⟩,
    fun models => ⟨tablesPart_eq naming models, edgesPart_eq naming models,
      fullRelations_eq naming models⟩⟩
  · rw [Recorder.render_ofFunction, fullDiagram_eq_parts]
  · rw [tablesPart_eq, tablesPart_eq, tablesPart_eq, List.map_append]
    exact Text.joinWith_append (by simpa using nonempty) (by simpa using laterNonempty) "\n"
  · rw [edgesPart_eq, edgesPart_eq, edgesPart_eq, List.flatMap_append, Text.join, Text.join,
      Text.join, List.flatten_append]
  · rw [fullRelations_eq, fullRelations_eq, fullRelations_eq, List.flatMap_append]

end

/-- A nested table is named by the names of the table and the field above it. -/
def joinedNaming (table field : Text) : Text :=
  table ++ "_" ++ field

/-- A model with a nested table. -/
def authorModel : EntityModel where
  name := .text "Author"
  forest := [⟨"home", .text "Embedded", Options.none,
    some [⟨"city", .text "String", Options.none, none⟩]⟩]
  instanceMethods := []
  staticMethods := []

/-- A model with a reference, in a field that bears a reserved word. -/
def bookModel : EntityModel where
  name := .text "Book"
  forest := [⟨"label", .text "ObjectID", ⟨false, false, .text "Author"⟩, none⟩]
  instanceMethods := []
  staticMethods := []

theorem authorModel_edges :
    edgesPart joinedNaming [authorModel] = "Author.home -> Author_home\n" := by
  have drawn : drawPurely joinedNaming authorModel =
      ⟨"Author", [.container "home" "Embedded" .oneToOne "Author_home"
        [.column "city" "String" none]], [], []⟩ :=
    rfl
  rw [edgesPart_eq, List.flatMap_singleton, drawn, Drawing.relations]
  simp only [relationsOf, columnRelations]
  rfl

theorem bookModel_edges : edgesPart joinedNaming [bookModel] = "Book._label -> Author\n" := by
  have drawn : drawPurely joinedNaming bookModel =
      ⟨"Book", [.column "label" "ObjectID" (some (.foreignKey (.text "Author")))], [], []⟩ :=
    rfl
  rw [edgesPart_eq, List.flatMap_singleton, drawn, Drawing.relations]
  simp only [relationsOf, columnRelations]
  rfl

theorem authorModel_bookModel_assembled :
    [authorModel] ≠ [] ∧ [bookModel] ≠ [] ∧
      (Id.run (Recorder.render (Naming.ofFunction joinedNaming) ([authorModel] ++ [bookModel])
        Recorder.start)).1 =
          tablesPart joinedNaming [authorModel] ++ "\n" ++ tablesPart joinedNaming [bookModel] ++
            "Author.home -> Author_home\nBook._label -> Author\n" := by
  have nonempty : [authorModel] ≠ [] := List.cons_ne_nil _ _
  have otherNonempty : [bookModel] ≠ [] := List.cons_ne_nil _ _
  obtain ⟨rendered, assembled, -⟩ := render_assembled joinedNaming Recorder.start
  obtain ⟨tables, edges, -⟩ := assembled _ _ nonempty otherNonempty
  refine ⟨nonempty, otherNonempty, ?_⟩
  rw [rendered, tables, edges, authorModel_edges, bookModel_edges]
  rfl

end EntityDiagram
