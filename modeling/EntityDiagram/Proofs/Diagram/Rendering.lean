import EntityDiagram.Diagram.Recorder
import EntityDiagram.Proofs.Diagram.Drawing

/-!
# Renderings

A rendering draws its models one by one and then writes what it has drawn.  A naming that is a
function of the table and the field leaves nothing to the order of drawing: the fields of a table
are those of its nodes one by one.  The main statements are `Recorder.render_eq`, for any naming,
and `Recorder.render_ofFunction`.
-/

namespace EntityDiagram

/-- Induction on a node, through its children as a list. -/
@[elab_as_elim]
theorem Node.induction_on_childList {motive : Node → Prop} (node : Node)
    (step : ∀ node : Node, (∀ child ∈ node.childList, motive child) → motive node) :
    motive node := by
  induction node using Node.induction_on with
  | mk name kind options children below =>
      apply step
      intro child member
      cases children with
      | none => cases member
      | some nodes => exact below nodes rfl child member

/-! ### Renderings -/

section

variable {m : Type → Type} [Monad m] [LawfulMonad m] (naming : Naming m)

/-- Models are drawn one by one, and their relations are added to those recorded before. -/
theorem Recorder.drawAll_eq (models : List EntityModel) (recorder : Recorder) :
    Recorder.drawAll naming models recorder =
      (fun drawings => (drawings, ⟨recorder.relations ++ drawings.flatMap Drawing.relations⟩)) <$>
        models.mapM (Drawing.ofModel naming) := by
  induction models generalizing recorder with
  | nil => simp [Recorder.drawAll]
  | cons model models ih => simp [Recorder.drawAll, ih]

/-- A rendering depends on nothing that was recorded before. -/
theorem Recorder.render_eq (models : List EntityModel) (recorder : Recorder) :
    Recorder.render naming models recorder =
      (fun drawings => (drawingsText drawings, ⟨drawings.flatMap Drawing.relations⟩)) <$>
        models.mapM (Drawing.ofModel naming) := by
  simp [Recorder.render, Recorder.drawAll_eq, Recorder.start, drawingsText]

end

/-! ### Functions -/

section

variable (naming : Text → Text → Text)

/-- A node as a field of a table. -/
def drawnField (table : Text) (node : Node) : Field :=
  Id.run (drawNode (Naming.ofFunction naming) table node)

theorem drawNodes_ofFunction (table : Text) (nodes : List Node) :
    Id.run (drawNodes (Naming.ofFunction naming) table nodes) =
      nodes.map (drawnField naming table) := by
  induction nodes with
  | nil => rw [drawNodes]; rfl
  | cons node nodes ih => rw [drawNodes, List.map_cons, ← ih]; rfl

theorem drawnField_of_scalar (table : Text) {node : Node}
    (scalar : isScalarKind node.kind = true) :
    drawnField naming table node =
      .column node.name node.kind.display (constraintOf node.name node.options) := by
  obtain ⟨name, kind, options, children⟩ := node
  rw [drawnField, drawNode, if_pos scalar]
  rfl

theorem drawnField_of_container (table : Text) {node : Node}
    (container : isScalarKind node.kind = false) :
    drawnField naming table node =
      .container node.name node.kind.display (cardinalityOf node.kind) (naming table node.name)
        (node.childList.map (drawnField naming (naming table node.name))) := by
  obtain ⟨name, kind, options, children⟩ := node
  rw [← drawNodes_ofFunction, drawnField, drawNode, if_neg (by simpa using container)]
  cases children <;> rfl

theorem drawPurely_eq (model : EntityModel) :
    drawPurely naming model =
      ⟨model.name.display, model.forest.map (drawnField naming model.name.display),
        model.instanceMethods.map Value.display, model.staticMethods.map Value.display⟩ := by
  rw [← drawNodes_ofFunction]
  rfl

/-- A rendering gives the full diagram and records its relations, and no others. -/
theorem Recorder.render_ofFunction (models : List EntityModel) (recorder : Recorder) :
    Id.run (Recorder.render (Naming.ofFunction naming) models recorder) =
      (fullDiagram naming models, ⟨fullRelations naming models⟩) := by
  have drawn : Id.run (models.mapM (Drawing.ofModel (Naming.ofFunction naming))) =
      models.map (drawPurely naming) := by
    simp [drawPurely]
  rw [Recorder.render_eq, Id.run_map, drawn]
  rfl

end

end EntityDiagram
