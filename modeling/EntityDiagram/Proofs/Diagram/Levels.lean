import EntityDiagram.Proofs.Diagram.Columns
import EntityDiagram.Proofs.Diagram.Walk
import Mathlib.Data.List.Forall2

/-!
# Drawings of models

Whatever the naming is, a rendering writes one drawing for each model, with tables for levels of
the structure of the model: the nodes at the top, or the children of one node.  A table has one
column for each node of its level.  The main statements are `Recorder.render_draws` and
`DrawnAll.isLevel`.
-/

namespace EntityDiagram

open MonadAttach (CanReturn)

/-- The levels of a structure: the nodes at the top, and the children of each node of a level. -/
inductive Forest.IsLevel (forest : Forest) : List Node → Prop
  | top : IsLevel forest forest
  | children {nodes : List Node} {node : Node} (level : IsLevel forest nodes)
      (member : node ∈ nodes) : IsLevel forest node.childList

theorem Forest.IsLevel.trans {forest inner : Forest} {nodes : List Node}
    (below : inner.IsLevel nodes) (level : forest.IsLevel inner) : forest.IsLevel nodes := by
  induction below with
  | top => exact level
  | children _ member ih => exact .children ih member

section

variable {m : Type → Type} [MonadAttach m] {naming : Naming m}

theorem Drawn.toColumn_eq {table : Text} {node : Node} {field : Field}
    (drawn : Drawn naming table node field) : field.toColumn = node.column := by
  cases drawn with
  | column scalar => simp [Field.toColumn, Node.column, scalar]
  | container notScalar _ _ => simp [Field.toColumn, Node.column, notScalar]

theorem DrawnAll.map_toColumn {table : Text} {nodes : List Node} {fields : List Field}
    (drawn : DrawnAll naming table nodes fields) :
    fields.map Field.toColumn = nodes.map Node.column := by
  induction nodes generalizing fields with
  | nil =>
      cases drawn
      rfl
  | cons node nodes ih =>
      cases drawn with
      | cons first rest => rw [List.map_cons, List.map_cons, first.toColumn_eq, ih rest]

theorem DrawnAll.exists_node_of_mem {table : Text} {nodes : List Node} {fields : List Field}
    (drawn : DrawnAll naming table nodes fields) {field : Field} (member : field ∈ fields) :
    ∃ node ∈ nodes, Drawn naming table node field := by
  induction nodes generalizing fields with
  | nil =>
      cases drawn
      cases member
  | cons node nodes ih =>
      cases drawn with
      | cons first rest =>
          rcases List.mem_cons.mp member with rfl | later
          · exact ⟨node, List.mem_cons_self, first⟩
          · obtain ⟨found, foundMember, foundDrawn⟩ := ih rest later
            exact ⟨found, List.mem_cons_of_mem node foundMember, foundDrawn⟩

/-- The tables of the fields of one level are for levels, if so are those below each node. -/
theorem DrawnAll.isLevel_of_forall {table : Text} {nodes : List Node} {fields : List Field}
    (drawn : DrawnAll naming table nodes fields)
    (each : ∀ node ∈ nodes, ∀ {table : Text} {field : Field}, Drawn naming table node field →
      ∀ below ∈ nestedTables [field], ∃ level,
        Forest.IsLevel node.childList level ∧ below.columns = level.map Node.column)
    {below : Table} (member : below ∈ tablesOf table fields) :
    ∃ level, Forest.IsLevel nodes level ∧ below.columns = level.map Node.column := by
  rcases List.mem_cons.mp member with rfl | nested
  · exact ⟨nodes, .top, drawn.map_toColumn⟩
  · rw [nestedTables_eq_flatMap] at nested
    obtain ⟨field, fieldMember, inField⟩ := List.mem_flatMap.mp nested
    obtain ⟨node, nodeMember, nodeDrawn⟩ := drawn.exists_node_of_mem fieldMember
    obtain ⟨level, isLevel, columns⟩ := each node nodeMember nodeDrawn below inField
    exact ⟨level, isLevel.trans (.children .top nodeMember), columns⟩

theorem Drawn.isLevel {node : Node} {table : Text} {field : Field}
    (drawn : Drawn naming table node field) {below : Table}
    (member : below ∈ nestedTables [field]) :
    ∃ level, Forest.IsLevel node.childList level ∧ below.columns = level.map Node.column := by
  induction node using Node.induction_on_childList generalizing table field below with
  | step node ih =>
      cases drawn with
      | column scalar => simp [nestedTables] at member
      | @container _ name target kind options children fields notScalar named drawnBelow =>
          cases fields with
          | nil => simp [nestedTables] at member
          | cons field fields =>
              rw [nestedTables, nestedTables, List.append_nil] at member
              exact drawnBelow.isLevel_of_forall
                (fun child childMember _ _ childDrawn _ => ih child childMember childDrawn) member

/-- Every table of a drawing has the columns of one level of the structure that is drawn. -/
theorem DrawnAll.isLevel {table : Text} {forest : Forest} {fields : List Field}
    (drawn : DrawnAll naming table forest fields) {below : Table}
    (member : below ∈ tablesOf table fields) :
    ∃ level, forest.IsLevel level ∧ below.columns = level.map Node.column :=
  drawn.isLevel_of_forall (fun _ _ _ _ nodeDrawn _ => nodeDrawn.isLevel) member

end

/-! ### Models -/

section

variable {m : Type → Type} [MonadAttach m]

/-- A drawing that a model may have. -/
structure Drawing.Draws (naming : Naming m) (model : EntityModel) (drawing : Drawing) : Prop where
  name : CanReturn (naming.entity model.name) drawing.name
  fields : DrawnAll naming drawing.name model.forest drawing.fields
  instanceMethods : drawing.instanceMethods = model.instanceMethods.map Value.display
  staticMethods : drawing.staticMethods = model.staticMethods.map Value.display

variable [Monad m] [LawfulMonad m] [LawfulMonadAttach m]

theorem Drawing.ofModel_draws {naming : Naming m} {model : EntityModel} {drawing : Drawing}
    (answers : CanReturn (Drawing.ofModel naming model) drawing) :
    drawing.Draws naming model := by
  obtain ⟨name, named, answers⟩ := LawfulMonadAttach.canReturn_bind_imp' answers
  obtain ⟨fields, drawn, answers⟩ := LawfulMonadAttach.canReturn_bind_imp' answers
  obtain rfl := LawfulMonadAttach.eq_of_canReturn_pure answers
  exact ⟨named, drawNodes_drawn drawn, rfl, rfl⟩

/-- The answers of a step for items in a row. -/
theorem forall₂_of_canReturn_mapM {α β : Type} {step : α → m β} {items : List α}
    {results : List β} (answers : CanReturn (items.mapM step) results) :
    List.Forall₂ (fun item result => CanReturn (step item) result) items results := by
  induction items generalizing results with
  | nil =>
      rw [List.mapM_nil] at answers
      obtain rfl := LawfulMonadAttach.eq_of_canReturn_pure answers
      exact .nil
  | cons item items ih =>
      rw [List.mapM_cons] at answers
      obtain ⟨result, first, answers⟩ := LawfulMonadAttach.canReturn_bind_imp' answers
      obtain ⟨rest, others, answers⟩ := LawfulMonadAttach.canReturn_bind_imp' answers
      obtain rfl := LawfulMonadAttach.eq_of_canReturn_pure answers
      exact .cons first (ih others)

/-- A rendering writes one drawing for each model, and records the relations of the drawings. -/
theorem Recorder.render_draws {naming : Naming m} {models : List EntityModel}
    {recorder : Recorder} {answer : Text × Recorder}
    (answers : CanReturn (Recorder.render naming models recorder) answer) :
    ∃ drawings, List.Forall₂ (fun model drawing => drawing.Draws naming model) models drawings ∧
      answer = (drawingsText drawings, ⟨drawings.flatMap Drawing.relations⟩) := by
  rw [Recorder.render_eq] at answers
  obtain ⟨drawings, drawn, same⟩ := LawfulMonadAttach.canReturn_map_imp' answers
  exact ⟨drawings, (forall₂_of_canReturn_mapM drawn).imp fun _ _ => Drawing.ofModel_draws,
    same.symm⟩

end

/-! ### Drawings in a row -/

section

variable {m : Type → Type} [MonadAttach m] {naming : Naming m} {models : List EntityModel}
  {drawings : List Drawing}
  (draws : List.Forall₂ (fun model drawing => drawing.Draws naming model) models drawings)

include draws

/-- What drawings have in a row is what their models have in a row. -/
theorem flatMap_eq_of_draws {α : Type} {ofDrawing : Drawing → List α}
    {ofModel : EntityModel → List α}
    (same : ∀ model drawing, drawing.Draws naming model → ofDrawing drawing = ofModel model) :
    drawings.flatMap ofDrawing = models.flatMap ofModel := by
  induction draws with
  | nil => rfl
  | cons first _ ih => rw [List.flatMap_cons, List.flatMap_cons, same _ _ first, ih]

theorem exists_drawing_of_mem {model : EntityModel} (member : model ∈ models) :
    ∃ drawing ∈ drawings, drawing.Draws naming model := by
  induction draws with
  | nil => cases member
  | @cons first drawing models drawings drawn _ ih =>
      rcases List.mem_cons.mp member with rfl | later
      · exact ⟨drawing, List.mem_cons_self, drawn⟩
      · obtain ⟨found, foundMember, foundDrawn⟩ := ih later
        exact ⟨found, List.mem_cons_of_mem drawing foundMember, foundDrawn⟩

theorem exists_model_of_mem {drawing : Drawing} (member : drawing ∈ drawings) :
    ∃ model ∈ models, drawing.Draws naming model := by
  induction draws with
  | nil => cases member
  | @cons model first models drawings drawn _ ih =>
      rcases List.mem_cons.mp member with rfl | later
      · exact ⟨model, List.mem_cons_self, drawn⟩
      · obtain ⟨found, foundMember, foundDrawn⟩ := ih later
        exact ⟨found, List.mem_cons_of_mem model foundMember, foundDrawn⟩

end

end EntityDiagram
