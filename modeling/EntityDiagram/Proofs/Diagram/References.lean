import EntityDiagram.Diagram.TableName
import EntityDiagram.Proofs.Collection
import EntityDiagram.Proofs.Diagram.Escaped
import EntityDiagram.Proofs.Diagram.Hashed
import EntityDiagram.Proofs.Diagram.Levels
import EntityDiagram.Proofs.Document.Models
import EntityDiagram.Proofs.Structure.Declared
import EntityDiagram.Proofs.Structure.WellNamed
import Mathlib.Data.List.Flatten

/-!
# References in both diagrams

The minimal diagram draws an edge for every reference at the top of a model, whatever kind of field
it is.  In the full diagram a reference is the relation of a column, so only fields of scalar kinds
have one, and those only that are not unique.  The main statement is `references_agree`: the
references that the full diagram records are those edges of the minimal one, in the same order.
-/

namespace EntityDiagram

open MonadAttach (CanReturn)
open Text (segments)

/-- The descriptor that paths give to a field at the top: the last one for its name. -/
def DeclaresField (paths : Paths) (name : Text) (descriptor : Descriptor) : Prop :=
  ∃ before path later, paths = before ++ (path, descriptor) :: later ∧ segments path = [name] ∧
    ∀ other ∈ later, segments other.1 ≠ [name]

/-- Whether a node is drawn as a foreign key. -/
def Node.isForeignKey (node : Node) : Bool :=
  isScalarKind node.kind && !node.options.unique && node.options.ref.isTruthy

namespace EntityModel

/-- The nodes at the top of a model that refer to another model. -/
def references (model : EntityModel) : List Node :=
  model.forest.filter fun node => node.options.ref.isTruthy

/-- The edge of a reference in the minimal diagram. -/
def referenceEdge (model : EntityModel) (node : Node) : Text :=
  Source.edgeLine model.name.display node.options.ref.display

/-- The relation of a reference in the full diagram. -/
def referenceRelation (model : EntityModel) (node : Node) : Relation :=
  ⟨model.name.display, node.name, node.options.ref, .oneToOne⟩

end EntityModel

/-- The edge between entities that a relation amounts to, without the field that it leaves. -/
def Relation.entityEdge (relation : Relation) : Text :=
  Source.edgeLine relation.table relation.target.display

/-- The relations of the columns of a table. -/
def fieldReferences (table : Text) (fields : List Field) : List Relation :=
  fields.flatMap fun field => columnRelations table field.toColumn.name field.toColumn.constraint

/-- The relations of the columns of an entity's own table. -/
def Drawing.references (drawing : Drawing) : List Relation :=
  fieldReferences drawing.name drawing.fields

/-- A naming that gives their own names to entities, as far as these can be written. -/
def Naming.KeepsEntities {m : Type → Type} [MonadAttach m] (naming : Naming m) : Prop :=
  ∀ name table, CanReturn (naming.entity name) table → name.written = .ok table

theorem hashedNaming_keepsEntities : hashedNaming.KeepsEntities :=
  fun _ _ named => named

theorem randomNaming_keepsEntities : randomNaming.KeepsEntities := by
  rintro name table ⟨before, after, named⟩
  obtain ⟨written, given, same⟩ := bind_eq_ok_iff.mp named
  cases same
  exact given

/-! ### Declared fields -/

theorem Options.settle_of_isTruthy {options : Options}
    (refers : options.settle.ref.isTruthy = true) :
    options.settle = options := by
  by_cases truthy : options.ref.isTruthy = true
  · rw [settle, if_pos truthy]
  · simp [settle, truthy] at refers
    cases refers

theorem exists_declaresField {paths : Paths} {name : Text} {entry : Text × Descriptor}
    (member : entry ∈ paths) (leads : segments entry.1 = [name]) :
    ∃ descriptor, DeclaresField paths name descriptor := by
  induction paths generalizing entry with
  | nil => cases member
  | cons first rest ih =>
      by_cases later : ∃ other ∈ rest, segments other.1 = [name]
      · obtain ⟨other, otherMember, otherLeads⟩ := later
        obtain ⟨descriptor, before, path, behind, rfl, pathLeads, last⟩ := ih otherMember otherLeads
        exact ⟨descriptor, first :: before, path, behind, rfl, pathLeads, last⟩
      · rcases List.mem_cons.mp member with rfl | inRest
        · exact ⟨entry.2, [], entry.1, rest, rfl, leads,
            fun other otherMember otherLeads => later ⟨other, otherMember, otherLeads⟩⟩
        · exact (later ⟨entry, inRest, leads⟩).elim

/-- No path decides on a field at the top. -/
theorem not_governs_singleton (name : Text) (entry : Text × Descriptor) :
    ¬ Governs [name] entry := by
  rintro ⟨-, above, different⟩
  rcases List.prefix_cons_iff.mp above with empty | ⟨rest, given, restAbove⟩
  · exact segments_ne_nil entry.1 empty
  · rw [List.prefix_nil.mp restAbove] at given
    exact different given

section

variable {paths : Paths} (complete : CompletePaths paths) {forest : Forest}
  (built : buildForest paths = .ok forest)

include complete built

theorem settles_singleton (name : Text) : Settles paths [name] none (forest.typeAt? [name]) := by
  rw [typeAt?_growForest complete (List.cons_ne_nil _ _)
    (fun entry _ => not_governs_singleton name entry) built, Forest.typeAt?_empty]
  exact settles_foldl paths [name] none

theorem typeAt?_of_declaresField {name : Text} {descriptor : Descriptor}
    (declares : DeclaresField paths name descriptor) :
    forest.typeAt? [name] = some descriptor.type := by
  obtain ⟨before, path, later, split, leads, last⟩ := declares
  exact (settles_singleton complete built name).declared before (path, descriptor) later split leads
    last

/-- A type with a reference is declared: a parent that is created on demand has none. -/
theorem exists_declaresField_of_typeAt? {name : Text} {type : Value × Options}
    (found : forest.typeAt? [name] = some type) (refers : type.2.ref.isTruthy = true) :
    ∃ descriptor, DeclaresField paths name descriptor ∧ descriptor.type = type := by
  by_cases led : ∃ entry ∈ paths, segments entry.1 = [name]
  · obtain ⟨entry, member, leads⟩ := led
    obtain ⟨descriptor, declares⟩ := exists_declaresField member leads
    refine ⟨descriptor, declares, ?_⟩
    rw [typeAt?_of_declaresField complete built declares] at found
    exact Option.some.inj found
  · have elsewhere : ∀ entry ∈ paths, segments entry.1 ≠ [name] :=
      fun entry member leads => led ⟨entry, member, leads⟩
    obtain rfl := (settles_singleton complete built name).parent elsewhere rfl type found
    cases refers

end

theorem Forest.named?_of_mem {forest : Forest} (distinct : (forest.map Node.name).Nodup)
    {node : Node} (member : node ∈ forest) : forest.named? node.name = some node := by
  induction forest with
  | nil => cases member
  | cons first rest ih =>
      obtain ⟨notInRest, restDistinct⟩ := List.nodup_cons.mp distinct
      rcases List.mem_cons.mp member with rfl | inRest
      · simp [named?]
      · have different : first.name ≠ node.name :=
          fun same => notInRest (same ▸ List.mem_map_of_mem inRest)
        have rest := ih restDistinct inRest
        rw [named?] at rest ⊢
        rw [List.find?_cons_of_neg (by simpa using different), rest]

theorem Forest.WellNamed.exists_node_iff {forest : Forest} (wellNamed : forest.WellNamed)
    {name : Text} {type : Value × Options} :
    (∃ node ∈ forest, node.name = name ∧ node.type = type) ↔
      forest.typeAt? [name] = some type := by
  rw [Forest.typeAt?, Forest.at?, Option.map_eq_some_iff]
  constructor
  · rintro ⟨node, member, rfl, rfl⟩
    exact ⟨node, Forest.named?_of_mem wellNamed.distinct member, rfl⟩
  · rintro ⟨node, found, rfl⟩
    rw [Forest.named?] at found
    exact ⟨node, List.mem_of_find?_eq_some found, by simpa using List.find?_some found, rfl⟩

/-- The references of a model are the fields at the top that are declared with one. -/
theorem exists_reference_iff {paths : Paths} (complete : CompletePaths paths) {model : EntityModel}
    (built : buildForest paths = .ok model.forest) {name : Text} {kind : Value}
    {options : Options} :
    (∃ node ∈ model.references, node.name = name ∧ node.type = (kind, options)) ↔
      options.ref.isTruthy = true ∧
        ∃ schema element, DeclaresField paths name (.typed kind options schema element) := by
  have wellNamed := buildForest_wellNamed built
  constructor
  · rintro ⟨node, member, named, typed⟩
    obtain ⟨inForest, refers⟩ := List.mem_filter.mp member
    obtain ⟨rfl, rfl⟩ := Prod.mk.inj typed
    have found := wellNamed.exists_node_iff.mp ⟨node, inForest, named, typed⟩
    obtain ⟨descriptor, declares, same⟩ :=
      exists_declaresField_of_typeAt? complete built found refers
    refine ⟨refers, ?_⟩
    cases descriptor with
    | missing =>
        obtain ⟨-, sameOptions⟩ := Prod.mk.inj same
        rw [← sameOptions] at refers
        cases refers
    | typed kind options schema element =>
        obtain ⟨rfl, sameOptions⟩ := Prod.mk.inj same
        have settled : options.settle = options :=
          Options.settle_of_isTruthy (by rw [sameOptions]; exact refers)
        rw [← sameOptions, settled]
        exact ⟨schema, element, declares⟩
  · rintro ⟨refers, schema, element, declares⟩
    have found := typeAt?_of_declaresField complete built declares
    have settled : (Descriptor.typed kind options schema element).type = (kind, options) := by
      rw [Descriptor.type, Options.settle, if_pos refers]
    rw [settled] at found
    obtain ⟨node, inForest, named, typed⟩ := wellNamed.exists_node_iff.mpr found
    refine ⟨node, List.mem_filter.mpr ⟨inForest, ?_⟩, named, typed⟩
    rw [(Prod.mk.inj typed).2]
    exact refers

/-! ### Drawn references -/

theorem EntityModel.filter_references (model : EntityModel) :
    model.references.filter Node.isForeignKey = model.forest.filter Node.isForeignKey := by
  rw [references, List.filter_filter]
  refine List.filter_congr fun node _ => ?_
  rw [Node.isForeignKey, Bool.and_assoc, Bool.and_self]

theorem EntityModel.minimalLines_eq (model : EntityModel) :
    minimalLines model =
      Source.bareTable model.name.display :: model.references.map model.referenceEdge := by
  rw [minimalLines, references, ← List.filterMap_eq_map, ← List.filterMap_eq_filter,
    List.filterMap_filterMap]
  refine congrArg _ (List.filterMap_congr fun node _ => ?_)
  by_cases refers : node.options.ref.isTruthy = true <;>
    simp [referenceLine?, referenceEdge, Option.guard, refers]

theorem columnRelations_column (table : Text) (node : Node) :
    columnRelations table node.column.name node.column.constraint =
      if node.isForeignKey then [⟨table, node.name, node.options.ref, .oneToOne⟩] else [] := by
  unfold Node.column Node.isForeignKey constraintOf
  cases isScalarKind node.kind
  · rfl
  · cases node.options.unique
    · cases node.options.ref.isTruthy
      · by_cases key : node.name = primaryKeyField <;> simp [columnRelations, key]
      · rfl
    · rfl

theorem flatMap_columnRelations (table : Text) (nodes : List Node) :
    (nodes.flatMap fun node => columnRelations table node.column.name node.column.constraint) =
      (nodes.filter Node.isForeignKey).map fun node =>
        ⟨table, node.name, node.options.ref, .oneToOne⟩ := by
  induction nodes with
  | nil => rfl
  | cons node nodes ih =>
      rw [List.flatMap_cons, ih, columnRelations_column, List.filter_cons]
      split <;> rfl

theorem fieldReferences_sublist (table : Text) (fields : List Field) :
    (fieldReferences table fields).Sublist (relationsOf table fields) := by
  induction fields with
  | nil => exact List.nil_sublist _
  | cons field fields ih =>
      rw [fieldReferences, List.flatMap_cons]
      cases field with
      | column name kind constraint =>
          rw [relationsOf]
          exact (List.Sublist.refl _).append ih
      | container name kind cardinality target inner =>
          rw [relationsOf]
          exact ih.trans (List.sublist_append_right _ _)

section

variable {m : Type → Type} [MonadAttach m] {naming : Naming m}

/-- The columns of a table refer to models as its nodes do, in the order of the nodes. -/
theorem DrawnAll.fieldReferences_eq {table : Text} {nodes : List Node} {fields : List Field}
    (drawn : DrawnAll naming table nodes fields) :
    fieldReferences table fields =
      (nodes.filter Node.isForeignKey).map fun node =>
        ⟨table, node.name, node.options.ref, .oneToOne⟩ := by
  have columns : fieldReferences table fields =
      (fields.map Field.toColumn).flatMap fun column =>
        columnRelations table column.name column.constraint := by
    rw [fieldReferences, List.flatMap_map]
  rw [columns, drawn.map_toColumn, List.flatMap_map]
  exact flatMap_columnRelations table nodes

/-- A node of another kind has a relation to the table below it instead. -/
theorem DrawnAll.exists_relation_of_container {table : Text} {nodes : List Node}
    {fields : List Field} (drawn : DrawnAll naming table nodes fields) {node : Node}
    (member : node ∈ nodes) (container : isScalarKind node.kind = false) :
    ∃ target, CanReturn (naming.nested table node.name) target ∧
      ⟨table, node.name, .text target, cardinalityOf node.kind⟩ ∈ relationsOf table fields := by
  obtain ⟨field, fieldMember, nodeDrawn⟩ := drawn.exists_of_mem member
  cases nodeDrawn with
  | column scalar => simp [scalar] at container
  | container notScalar named below => exact ⟨_, named, mem_relationsOf fieldMember table⟩

section

variable (keeps : naming.KeepsEntities) {model : EntityModel} {drawing : Drawing}
  (draws : drawing.Draws naming model)

include keeps draws

theorem Drawing.Draws.name_eq : model.name.written = .ok drawing.name ∧
    drawing.name = model.name.display := by
  have written := keeps model.name drawing.name draws.name
  exact ⟨written, (written_yields model.name).good drawing.name written⟩

theorem Drawing.Draws.references_eq :
    drawing.references =
      (model.references.filter Node.isForeignKey).map model.referenceRelation := by
  rw [Drawing.references, draws.fields.fieldReferences_eq, model.filter_references,
    (draws.name_eq keeps).2]
  rfl

end

end

/-! ### Accepted documents -/

section

variable {m : Type → Type} [Monad m] [LawfulMonad m] [MonadAttach m] [LawfulMonadAttach m]

/-- What the models of an accepted document refer to, in both diagrams.  The references of a model
are the fields at the top that are declared with one, and the minimal diagram has an edge for each
of them.  Of these edges the full diagram records those of scalar kinds that are not unique, in the
same order, as relations of their fields; and its columns at the top have no other relations.  A
field at the top of any other kind is related to a table of its own. -/
theorem references_agree {document : Mapping} (accepted : validate (.map document) = .ok ())
    {names : List Value} {collected : List EntityModel}
    (collects : collectAll (modelsOf document) names = .ok collected) {naming : Naming m}
    (keeps : naming.KeepsEntities) {recorder : Recorder} {answer : Text × Recorder}
    (rendered : CanReturn (Recorder.render naming collected recorder) answer) :
    (∀ model ∈ collected, ∃ paths, pathsOf (modelsOf document) model.name = .ok paths ∧
        ∀ name kind options,
          (∃ node ∈ model.references, node.name = name ∧ node.type = (kind, options)) ↔
            options.ref.isTruthy = true ∧
              ∃ schema element, DeclaresField paths name (.typed kind options schema element)) ∧
      writeMinimal collected = .ok (escapeReserved (Text.join (collected.flatMap fun model =>
        Source.bareTable model.name.display :: model.references.map model.referenceEdge))) ∧
      ∃ drawings,
        List.Forall₂ (fun model drawing => drawing.Draws naming model) collected drawings ∧
        answer = (drawingsText drawings, ⟨drawings.flatMap Drawing.relations⟩) ∧
        drawings.flatMap Drawing.references = (collected.flatMap fun model =>
          (model.references.filter Node.isForeignKey).map model.referenceRelation) ∧
        (drawings.flatMap Drawing.references).Sublist answer.2.relations ∧
        ((drawings.flatMap Drawing.references).map Relation.entityEdge).Sublist
          (collected.flatMap fun model => model.references.map model.referenceEdge) ∧
        ∀ model ∈ collected, ∀ node ∈ model.forest, isScalarKind node.kind = false →
          ∃ target, CanReturn (naming.nested model.name.display node.name) target ∧
            ⟨model.name.display, node.name, .text target, cardinalityOf node.kind⟩ ∈
              answer.2.relations := by
  obtain ⟨drawings, draws, rfl⟩ := Recorder.render_draws rendered
  have references : drawings.flatMap Drawing.references = collected.flatMap fun model =>
      (model.references.filter Node.isForeignKey).map model.referenceRelation :=
    flatMap_eq_of_draws draws fun model drawing drawn => drawn.references_eq keeps
  refine ⟨fun model member => ?_, ?_, drawings, draws, rfl, references, ?_, ?_, ?_⟩
  · obtain ⟨-, sound⟩ := Provider.collect_sound (collectAll_eq_ok_iff.mp collects)
    obtain ⟨paths, forest, methods, read, built, -, grown⟩ :=
      Provider.model_eq_ok_iff.mp (sound model member)
    have sameForest : model.forest = forest := by
      rw [grown]
    refine ⟨paths, read, fun name kind options => ?_⟩
    exact exists_reference_iff (pathsOf_wellFormed accepted read).complete (sameForest ▸ built)
  · have writable : ∀ model ∈ collected, model.name.isWritable = true := by
      intro model member
      obtain ⟨drawing, -, drawn⟩ := exists_drawing_of_mem draws member
      exact written_returns_iff.mp ⟨drawing.name, (drawn.name_eq keeps).1⟩
    rw [writeMinimal_eq writable, minimalDiagram, funext EntityModel.minimalLines_eq]
  · exact .flatMap_right drawings fun drawing _ =>
      fieldReferences_sublist drawing.name drawing.fields
  · rw [references, List.map_flatMap]
    refine .flatMap_right collected fun model _ => ?_
    rw [List.map_map]
    exact List.filter_sublist.map model.referenceEdge
  · intro model member node nodeMember container
    obtain ⟨drawing, drawingMember, drawn⟩ := exists_drawing_of_mem draws member
    obtain ⟨target, named, related⟩ :=
      drawn.fields.exists_relation_of_container nodeMember container
    rw [(drawn.name_eq keeps).2] at named related
    exact ⟨target, named, List.mem_flatMap.mpr ⟨drawing, drawingMember, by
      rw [Drawing.relations, (drawn.name_eq keeps).2]
      exact related⟩⟩

end

/-! ### Columns and containers with references -/

/-- A document with references of two columns, one of them unique. -/
def citingDocument : Mapping :=
  let reference (unique : Bool) : Value := .map
    [(.text "type", .text "ObjectID"), (.text "unique", .scalar (.bool unique)),
      (.text "ref", .text "User")]
  [(.text "models", .map [(.text "Post", .map [(.text "fields", .map
    [(.text "author", reference false), (.text "editor", reference true)])])])]

def citingModel : EntityModel where
  name := .text "Post"
  forest := [⟨"author", .text "ObjectID", ⟨false, false, .text "User"⟩, none⟩,
    ⟨"editor", .text "ObjectID", ⟨false, true, .text "User"⟩, none⟩]
  instanceMethods := []
  staticMethods := []

/-- The minimal diagram draws both references, the full one records that which is not unique. -/
theorem citingDocument_agrees :
    validate (.map citingDocument) = .ok () ∧
      collectAll (modelsOf citingDocument) [.text "Post"] = .ok [citingModel] ∧
      writeMinimal [citingModel] =
        .ok "Post: \x7bshape: sql_table\x7d\nPost -> User\nPost -> User\n" ∧
      ∃ answer, Recorder.render hashedNaming [citingModel] Recorder.start = .ok answer ∧
        [⟨"Post", "author", .text "User", .oneToOne⟩].Sublist answer.2.relations := by
  have accepted : validate (.map citingDocument) = .ok () := rfl
  have collects : collectAll (modelsOf citingDocument) [.text "Post"] = .ok [citingModel] := rfl
  have rendered :
      ∃ answer, Recorder.render hashedNaming [citingModel] Recorder.start = .ok answer :=
    ⟨_, rfl⟩
  obtain ⟨answer, rendered⟩ := rendered
  obtain ⟨-, minimal, drawings, -, -, references, recorded, -⟩ :=
    references_agree accepted collects hashedNaming_keepsEntities rendered
  refine ⟨accepted, collects, minimal, answer, rendered, ?_⟩
  rw [references] at recorded
  exact recorded

/-- A document with a reference of a field that is a container in the full diagram. -/
def ownedDocument : Mapping :=
  [(.text "models", .map [(.text "A", .map [(.text "fields", .map
    [(.text "owner", .map [(.text "type", .text "UUID"), (.text "ref", .text "User")])])])])]

def ownedModel : EntityModel where
  name := .text "A"
  forest := [⟨"owner", .text "UUID", ⟨false, false, .text "User"⟩, none⟩]
  instanceMethods := []
  staticMethods := []

theorem hashedName_ne_user {table target : Text} (named : hashedName table "owner" = .ok target) :
    target ≠ "User" := by
  obtain ⟨place, -, same⟩ := bind_eq_ok_iff.mp named
  cases same
  exact fun equal => nomatch equal

/-- The minimal diagram draws the reference, and the full one has no relation to its target. -/
theorem ownedDocument_disagrees :
    validate (.map ownedDocument) = .ok () ∧
      collectAll (modelsOf ownedDocument) [.text "A"] = .ok [ownedModel] ∧
      (∃ paths, pathsOf (modelsOf ownedDocument) (.text "A") = .ok paths ∧
        DeclaresField paths "owner"
          (.typed (.text "UUID") ⟨false, false, .text "User"⟩ none .missing)) ∧
      writeMinimal [ownedModel] = .ok "A: \x7bshape: sql_table\x7d\nA -> User\n" ∧
      ∃ answer, Recorder.render hashedNaming [ownedModel] Recorder.start = .ok answer ∧
        ∀ relation ∈ answer.2.relations, relation.target.display ≠ "User" := by
  have rendered : ∃ answer, Recorder.render hashedNaming [ownedModel] Recorder.start = .ok answer :=
    ⟨_, rfl⟩
  obtain ⟨answer, rendered⟩ := rendered
  refine ⟨rfl, rfl, ⟨_, rfl, [], "owner", [], rfl, rfl, by simp⟩, rfl, answer, rendered, ?_⟩
  have returned : CanReturn (Recorder.render hashedNaming [ownedModel] Recorder.start) answer :=
    rendered
  obtain ⟨drawings, draws, rfl⟩ := Recorder.render_draws returned
  intro relation member
  obtain ⟨drawing, inDrawings, inDrawing⟩ := List.mem_flatMap.mp member
  obtain ⟨model, modelMember, drawn⟩ := exists_model_of_mem draws inDrawings
  obtain rfl := List.mem_singleton.mp modelMember
  obtain ⟨tableName, fields, instanceMethods, staticMethods⟩ := drawing
  have drawnFields : DrawnAll hashedNaming tableName ownedModel.forest fields := drawn.fields
  rcases drawnFields with _ | ⟨first, none_left⟩
  cases none_left
  cases first with
  | column scalar => cases scalar
  | container notScalar named below =>
      have childless : DrawnAll hashedNaming _ [] _ := below
      cases childless
      rw [Drawing.relations, relationsOf, relationsOf, relationsOf, List.append_nil] at inDrawing
      obtain rfl := List.mem_singleton.mp inDrawing
      exact hashedName_ne_user (mapError_eq_ok_iff.mp named)

end EntityDiagram
