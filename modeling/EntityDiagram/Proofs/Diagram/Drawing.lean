import EntityDiagram.Diagram.Field
import EntityDiagram.Proofs.Outcome
import EntityDiagram.Structure.Node

/-!
# What is drawn

A naming may fail, count or draw random numbers, so a drawing answers in the monad of its naming.
Whatever it answers mirrors the structure that is drawn: the fields of a table are those of the
nodes in order, a column for a node of a scalar kind and a container with the children's fields
for any other node.  The main statement is `drawNodes_drawn`.
-/

namespace EntityDiagram

open MonadAttach (CanReturn)

/-- Induction on a node, through its children. -/
@[elab_as_elim]
theorem Node.induction_on {motive : Node → Prop} (node : Node)
    (mk : ∀ (name : Text) (kind : Value) (options : Options) (children : Option (List Node)),
      (∀ nodes, children = some nodes → ∀ child ∈ nodes, motive child) →
        motive ⟨name, kind, options, children⟩) :
    motive node := by
  match node with
  | ⟨name, kind, options, none⟩ =>
      apply mk
      intro nodes absent
      cases absent
  | ⟨name, kind, options, some children⟩ =>
      apply mk
      intro nodes same child member
      cases same
      exact Node.induction_on child mk
termination_by sizeOf node
decreasing_by
  have smallerChild := List.sizeOf_lt_of_mem member
  simp only [Node.mk.sizeOf_spec, Option.some.sizeOf_spec]
  omega

section

variable {m : Type → Type} [MonadAttach m]

mutual

/-- A field that a node may be drawn as in a table. -/
inductive Drawn (naming : Naming m) : Text → Node → Field → Prop
  | column {table name : Text} {kind : Value} {options : Options}
      {children : Option (List Node)} (scalar : isScalarKind kind = true) :
      Drawn naming table ⟨name, kind, options, children⟩
        (.column name kind.display (constraintOf name options))
  | container {table name target : Text} {kind : Value} {options : Options}
      {children : Option (List Node)} {fields : List Field}
      (notScalar : isScalarKind kind = false)
      (named : CanReturn (naming.nested table name) target)
      (below : DrawnAll naming target (children.getD []) fields) :
      Drawn naming table ⟨name, kind, options, children⟩
        (.container name kind.display (cardinalityOf kind) target fields)

/-- Fields that the nodes of one level may be drawn as, in order. -/
inductive DrawnAll (naming : Naming m) : Text → List Node → List Field → Prop
  | nil {table : Text} : DrawnAll naming table [] []
  | cons {table : Text} {node : Node} {field : Field} {nodes : List Node} {fields : List Field}
      (first : Drawn naming table node field) (rest : DrawnAll naming table nodes fields) :
      DrawnAll naming table (node :: nodes) (field :: fields)

end

variable [Monad m] [LawfulMonad m] [LawfulMonadAttach m]

theorem drawNodes_drawn_of_forall {naming : Naming m} {table : Text} {nodes : List Node}
    (each : ∀ node ∈ nodes, ∀ field, CanReturn (drawNode naming table node) field →
      Drawn naming table node field)
    {fields : List Field} (answers : CanReturn (drawNodes naming table nodes) fields) :
    DrawnAll naming table nodes fields := by
  induction nodes generalizing fields with
  | nil =>
      rw [drawNodes] at answers
      obtain rfl := LawfulMonadAttach.eq_of_canReturn_pure answers
      exact .nil
  | cons node nodes ih =>
      rw [drawNodes] at answers
      obtain ⟨field, first, answers⟩ := LawfulMonadAttach.canReturn_bind_imp' answers
      obtain ⟨rest, others, answers⟩ := LawfulMonadAttach.canReturn_bind_imp' answers
      obtain rfl := LawfulMonadAttach.eq_of_canReturn_pure answers
      obtain ⟨nodeDrawn, restDrawn⟩ := List.forall_mem_cons.mp each
      exact .cons (nodeDrawn field first) (ih restDrawn others)

theorem drawNode_drawn {naming : Naming m} {node : Node} {table : Text} {field : Field}
    (answers : CanReturn (drawNode naming table node) field) :
    Drawn naming table node field := by
  induction node using Node.induction_on generalizing table field with
  | mk name kind options children below =>
      rw [drawNode] at answers
      split at answers
      · next scalar =>
          obtain rfl := LawfulMonadAttach.eq_of_canReturn_pure answers
          exact .column scalar
      · next notScalar =>
          obtain ⟨target, named, answers⟩ := LawfulMonadAttach.canReturn_bind_imp' answers
          obtain ⟨fields, drawn, answers⟩ := LawfulMonadAttach.canReturn_bind_imp' answers
          obtain rfl := LawfulMonadAttach.eq_of_canReturn_pure answers
          refine .container (by simpa using notScalar) named ?_
          cases children with
          | none =>
              rw [drawChildren] at drawn
              obtain rfl := LawfulMonadAttach.eq_of_canReturn_pure drawn
              exact .nil
          | some nodes =>
              rw [drawChildren] at drawn
              exact drawNodes_drawn_of_forall
                (fun child member field answered => below nodes rfl child member answered) drawn

/-- Every answer of a drawing mirrors the nodes that are drawn. -/
theorem drawNodes_drawn {naming : Naming m} {table : Text} {nodes : List Node}
    {fields : List Field} (answers : CanReturn (drawNodes naming table nodes) fields) :
    DrawnAll naming table nodes fields :=
  drawNodes_drawn_of_forall (fun _ _ _ => drawNode_drawn) answers

end

end EntityDiagram
