import EntityDiagram.Proofs.Diagram.Columns
import EntityDiagram.Proofs.Diagram.Rendering
import Mathlib.Data.List.Basic

/-!
# Walking a structure

A structure is walked in the order in which it is drawn: a node before the nodes below it, and
nothing below a node of a scalar kind.  A visit of the walk says all that its node adds to the
diagram of an entity: a column of the table of the nodes above it, at most one relation, and at
most one table below it.  The main statement is `render_walked`: the relations that a rendering
records are those of the visits in order, and they agree with the tables that it draws.
-/

namespace EntityDiagram

/-- A node of a structure, with the names of the nodes above it. -/
structure Visit where
  above : List Text
  node : Node

mutual

/-- The visits at a node and below it. -/
def Node.walk (above : List Text) : Node → List Visit
  | ⟨name, kind, options, children⟩ =>
      ⟨above, ⟨name, kind, options, children⟩⟩ ::
        if isScalarKind kind then [] else walkChildren (above ++ [name]) children

def walkChildren (above : List Text) : Option (List Node) → List Visit
  | none => []
  | some nodes => walkNodes above nodes

def walkNodes (above : List Text) : List Node → List Visit
  | [] => []
  | node :: rest => node.walk above ++ walkNodes above rest

end

def Forest.walk (forest : Forest) : List Visit :=
  walkNodes [] forest

/-- The column of a node; only a node of a scalar kind can have a constraint. -/
def Node.column (node : Node) : Column where
  name := node.name
  kind := node.kind.display
  constraint :=
    if isScalarKind node.kind then constraintOf node.name node.options else none

namespace Visit

/-- The names on the way to a visit, its own name last. -/
def address (visit : Visit) : List Text :=
  visit.above ++ [visit.node.name]

/-- The table of an entity in which a visit has its column: from the entity's own table, each name
on the way leads to the table that the naming gives to it. -/
def table (naming : Text → Text → Text) (entity : Text) (visit : Visit) : Text :=
  visit.above.foldl naming entity

/-- The relation of a visit.  A container leads to the table below it; a column leads to the
reference that it has, unless it is unique. -/
def relation? (naming : Text → Text → Text) (entity : Text) (visit : Visit) : Option Relation :=
  let table := visit.table naming entity
  if isScalarKind visit.node.kind then
    if !visit.node.options.unique && visit.node.options.ref.isTruthy then
      some ⟨table, visit.node.name, visit.node.options.ref, .oneToOne⟩
    else none
  else
    some ⟨table, visit.node.name, .text (naming table visit.node.name),
      cardinalityOf visit.node.kind⟩

/-- The table below a visit: that of a container with fields. -/
def below? (naming : Text → Text → Text) (entity : Text) (visit : Visit) : Option Table :=
  if isScalarKind visit.node.kind || visit.node.childList.isEmpty then none
  else
    some ⟨naming (visit.table naming entity) visit.node.name,
      visit.node.childList.map Node.column⟩

/-- A visit directly below another, which is a container. -/
structure IsChild (visit parent : Visit) : Prop where
  container : isScalarKind parent.node.kind = false
  above : visit.above = parent.address
  member : visit.node ∈ parent.node.childList

end Visit

/-! ### The order of a walk -/

theorem Node.walk_eq (above : List Text) (node : Node) :
    node.walk above =
      ⟨above, node⟩ ::
        if isScalarKind node.kind then [] else walkNodes (above ++ [node.name]) node.childList := by
  obtain ⟨name, kind, options, children⟩ := node
  rw [Node.walk]
  cases children with
  | none => simp [walkChildren, Node.childList, walkNodes]
  | some nodes => simp [walkChildren, Node.childList]

theorem walkNodes_eq_flatMap (above : List Text) (nodes : List Node) :
    walkNodes above nodes = nodes.flatMap (Node.walk above) := by
  induction nodes with
  | nil => rw [walkNodes, List.flatMap_nil]
  | cons node nodes ih => rw [walkNodes, ih, List.flatMap_cons]

/-- The visits of a walk are at its node or at one below a child. -/
theorem Node.eq_or_below_of_mem_walk {node : Node} {above : List Text} {visit : Visit}
    (member : visit ∈ node.walk above) :
    visit = ⟨above, node⟩ ∨
      ∃ child ∈ node.childList, visit ∈ child.walk (above ++ [node.name]) := by
  rw [Node.walk_eq] at member
  rcases List.mem_cons.mp member with rfl | below
  · exact .inl rfl
  · split at below
    · cases below
    · rw [walkNodes_eq_flatMap] at below
      exact .inr (List.mem_flatMap.mp below)

/-- In a walk over the nodes of one level, a visit of a deeper level comes after its parent. -/
theorem walkNodes_parent_of_forall {above : List Text} {nodes : List Node}
    (each : ∀ node ∈ nodes, ∀ {before after : List Visit} {visit : Visit},
      node.walk above = before ++ visit :: after →
        visit = ⟨above, node⟩ ∨ ∃ parent ∈ before, visit.IsChild parent)
    {before after : List Visit} {visit : Visit}
    (split : walkNodes above nodes = before ++ visit :: after) :
    visit.above = above ∧ visit.node ∈ nodes ∨ ∃ parent ∈ before, visit.IsChild parent := by
  induction nodes generalizing before with
  | nil =>
      rw [walkNodes] at split
      cases before <;> cases split
  | cons node nodes ih =>
      obtain ⟨nodeEach, restEach⟩ := List.forall_mem_cons.mp each
      rw [walkNodes, List.append_eq_append_iff] at split
      rcases split with ⟨later, rfl, inRest⟩ | ⟨later, inNode, rest⟩
      · rcases ih restEach inRest with ⟨same, member⟩ | ⟨parent, member, child⟩
        · exact .inl ⟨same, List.mem_cons_of_mem node member⟩
        · exact .inr ⟨parent, List.mem_append_right _ member, child⟩
      · cases later with
        | nil =>
            -- The visit is the first one of the nodes behind.
            have first : walkNodes above nodes = [] ++ visit :: after := rest.symm
            rcases ih restEach first with ⟨same, member⟩ | ⟨parent, member, -⟩
            · exact .inl ⟨same, List.mem_cons_of_mem node member⟩
            · cases member
        | cons first later =>
            obtain ⟨rfl, -⟩ := List.cons.inj rest
            rcases nodeEach inNode with rfl | found
            · exact .inl ⟨rfl, List.mem_cons_self⟩
            · exact .inr found

theorem Node.walk_parent {node : Node} {above : List Text} {before after : List Visit}
    {visit : Visit} (split : node.walk above = before ++ visit :: after) :
    visit = ⟨above, node⟩ ∨ ∃ parent ∈ before, visit.IsChild parent := by
  induction node using Node.induction_on_childList generalizing above before after visit with
  | step node ih =>
      rw [Node.walk_eq] at split
      cases before with
      | nil => exact .inl (List.cons.inj split).1.symm
      | cons first before =>
          obtain ⟨rfl, below⟩ := List.cons.inj split
          by_cases scalar : isScalarKind node.kind = true
          · simp [scalar] at below
          · rw [if_neg scalar] at below
            rcases walkNodes_parent_of_forall (fun child member => ih child member) below with
              ⟨same, member⟩ | ⟨parent, member, child⟩
            · exact .inr ⟨_, List.mem_cons_self, by simpa using scalar, same, member⟩
            · exact .inr ⟨parent, List.mem_cons_of_mem _ member, child⟩

/-- A visit of a walk is at the top, or its parent is walked before it. -/
theorem Forest.walk_parent {forest : Forest} {before after : List Visit} {visit : Visit}
    (split : forest.walk = before ++ visit :: after) :
    visit.above = [] ∧ visit.node ∈ forest ∨ ∃ parent ∈ before, visit.IsChild parent :=
  walkNodes_parent_of_forall (fun _ _ => Node.walk_parent) split

/-! ### What a walk adds to the diagram -/

section

variable (naming : Text → Text → Text)

theorem drawnField_toColumn (table : Text) (node : Node) :
    (drawnField naming table node).toColumn = node.column := by
  cases scalar : isScalarKind node.kind with
  | true => simp [drawnField_of_scalar naming table scalar, Field.toColumn, Node.column, scalar]
  | false => simp [drawnField_of_container naming table scalar, Field.toColumn, Node.column, scalar]

theorem map_drawnField_toColumn (table : Text) (nodes : List Node) :
    (nodes.map (drawnField naming table)).map Field.toColumn = nodes.map Node.column := by
  rw [List.map_map]
  exact List.map_congr_left fun node _ => drawnField_toColumn naming table node

theorem relationsOf_eq_flatMap (table : Text) (fields : List Field) :
    relationsOf table fields = fields.flatMap fun field => relationsOf table [field] := by
  induction fields with
  | nil => rw [relationsOf, List.flatMap_nil]
  | cons field fields ih =>
      rw [List.flatMap_cons, ← ih, ← relationsOf_append, List.singleton_append]

theorem nestedTables_eq_flatMap (fields : List Field) :
    nestedTables fields = fields.flatMap fun field => nestedTables [field] := by
  induction fields with
  | nil => rw [nestedTables, List.flatMap_nil]
  | cons field fields ih =>
      rw [List.flatMap_cons, ← ih, ← nestedTables_append, List.singleton_append]

variable (entity : Text)

/-- The relations of the fields of one level are those of the visits in and below it, if so are
those of each field. -/
theorem relationsOf_walked_of_forall (above : List Text) {nodes : List Node}
    (each : ∀ node ∈ nodes,
      relationsOf (above.foldl naming entity) [drawnField naming (above.foldl naming entity) node] =
        (node.walk above).filterMap (Visit.relation? naming entity)) :
    relationsOf (above.foldl naming entity)
        (nodes.map (drawnField naming (above.foldl naming entity))) =
      (walkNodes above nodes).filterMap (Visit.relation? naming entity) := by
  rw [relationsOf_eq_flatMap, List.flatMap_map, walkNodes_eq_flatMap, List.filterMap_flatMap]
  exact List.flatMap_congr each

theorem relationsOf_drawnField (node : Node) (above : List Text) :
    relationsOf (above.foldl naming entity) [drawnField naming (above.foldl naming entity) node] =
      (node.walk above).filterMap (Visit.relation? naming entity) := by
  induction node using Node.induction_on_childList generalizing above with
  | step node ih =>
      rw [Node.walk_eq]
      cases scalar : isScalarKind node.kind with
      | true =>
          rw [drawnField_of_scalar naming _ scalar, relationsOf, relationsOf, List.append_nil]
          cases unique : node.options.unique <;> cases ref : node.options.ref.isTruthy <;>
            by_cases key : node.name = primaryKeyField <;>
            simp [constraintOf, columnRelations, Visit.relation?, Visit.table, scalar, unique, ref,
              key]
      | false =>
          have below := relationsOf_walked_of_forall naming entity (above ++ [node.name])
            fun child member => ih child member _
          rw [List.foldl_concat] at below
          rw [drawnField_of_container naming _ scalar, relationsOf, relationsOf, List.append_nil,
            below]
          simp [Visit.relation?, Visit.table, scalar]

theorem nestedTables_walked_of_forall (above : List Text) {nodes : List Node}
    (each : ∀ node ∈ nodes,
      nestedTables [drawnField naming (above.foldl naming entity) node] =
        (node.walk above).filterMap (Visit.below? naming entity)) :
    nestedTables (nodes.map (drawnField naming (above.foldl naming entity))) =
      (walkNodes above nodes).filterMap (Visit.below? naming entity) := by
  rw [nestedTables_eq_flatMap, List.flatMap_map, walkNodes_eq_flatMap, List.filterMap_flatMap]
  exact List.flatMap_congr each

theorem nestedTables_drawnField (node : Node) (above : List Text) :
    nestedTables [drawnField naming (above.foldl naming entity) node] =
      (node.walk above).filterMap (Visit.below? naming entity) := by
  induction node using Node.induction_on_childList generalizing above with
  | step node ih =>
      rw [Node.walk_eq]
      cases scalar : isScalarKind node.kind with
      | true =>
          rw [drawnField_of_scalar naming _ scalar, nestedTables, nestedTables]
          simp [Visit.below?, scalar]
      | false =>
          have below := nestedTables_walked_of_forall naming entity (above ++ [node.name])
            fun child member => ih child member _
          rw [List.foldl_concat] at below
          rw [drawnField_of_container naming _ scalar]
          cases children : node.childList with
          | nil => simp [nestedTables, Visit.below?, children, walkNodes]
          | cons first rest =>
              rw [children, List.map_cons] at below
              rw [List.map_cons, nestedTables, nestedTables, List.append_nil, below,
                ← List.map_cons, map_drawnField_toColumn]
              simp [Visit.below?, Visit.table, scalar, children]

theorem drawPurely_relations (model : EntityModel) :
    (drawPurely naming model).relations =
      model.forest.walk.filterMap (Visit.relation? naming model.name.display) := by
  rw [drawPurely_eq]
  exact relationsOf_walked_of_forall naming model.name.display []
    fun node _ => relationsOf_drawnField naming model.name.display node []

theorem drawPurely_tables (model : EntityModel) :
    (drawPurely naming model).tables =
      ⟨model.name.display, model.forest.map Node.column⟩ ::
        model.forest.walk.filterMap (Visit.below? naming model.name.display) := by
  have nested := nestedTables_walked_of_forall naming model.name.display []
    fun node (_ : node ∈ model.forest) => nestedTables_drawnField naming model.name.display node []
  rw [List.foldl_nil] at nested
  rw [drawPurely_eq, Drawing.tables, tablesOf, nested, map_drawnField_toColumn]
  rfl

theorem fullRelations_walked (models : List EntityModel) :
    fullRelations naming models = models.flatMap fun model =>
      model.forest.walk.filterMap (Visit.relation? naming model.name.display) := by
  rw [fullRelations, List.flatMap_map]
  exact List.flatMap_congr fun model _ => drawPurely_relations naming model

end

/-! ### Tables and edges agree -/

theorem constraintOf_eq_foreignKey_iff {name : Text} {options : Options} :
    (∃ target, constraintOf name options = some (.foreignKey target)) ↔
      options.unique = false ∧ options.ref.isTruthy = true := by
  unfold constraintOf
  cases options.unique <;> cases options.ref.isTruthy <;>
    by_cases key : name = primaryKeyField <;> simp [key]

/-- The line of a column shows whether it is a foreign key. -/
theorem Column.line_eq_foreignKey_iff (column : Column) :
    column.line = Source.fieldLine column.name column.kind (some "foreign_key") ↔
      ∃ target, column.constraint = some (.foreignKey target) := by
  obtain ⟨name, kind, constraint⟩ := column
  have cancel (word : Option Text) :
      Source.fieldLine name kind word = Source.fieldLine name kind (some "foreign_key") ↔
        Source.fieldLine [] [] word = Source.fieldLine [] [] (some "foreign_key") := by
    simp only [Source.fieldLine, List.append_assoc, List.append_cancel_left_eq, List.nil_append]
  match constraint with
  | none => simpa [Column.line, cancel] using by decide
  | some .unique => simpa [Column.line, Constraint.word, cancel] using by decide
  | some (.foreignKey target) => simp [Column.line, Constraint.word]
  | some .primaryKey => simpa [Column.line, Constraint.word, cancel] using by decide

namespace Visit

variable {naming : Text → Text → Text} {entity : Text} {visit parent : Visit}

/-- A child has its column in the table below its parent. -/
theorem IsChild.below?_eq (child : visit.IsChild parent) (naming : Text → Text → Text)
    (entity : Text) :
    parent.below? naming entity =
      some ⟨visit.table naming entity, parent.node.childList.map Node.column⟩ := by
  have nonempty : parent.node.childList.isEmpty = false := by
    cases children : parent.node.childList with
    | nil => simpa [children] using child.member
    | cons _ _ => rfl
  have table : visit.table naming entity =
      naming (parent.table naming entity) parent.node.name := by
    rw [Visit.table, child.above, Visit.address, List.foldl_concat, Visit.table]
  simp [below?, child.container, nonempty, table]

theorem eq_of_below?_eq {below : Table} (given : visit.below? naming entity = some below) :
    isScalarKind visit.node.kind = false ∧
      below = ⟨naming (visit.table naming entity) visit.node.name,
        visit.node.childList.map Node.column⟩ := by
  unfold below? at given
  split at given
  · cases given
  · next container =>
      simp only [Bool.or_eq_true, not_or, Bool.not_eq_true] at container
      exact ⟨container.1, (Option.some.inj given).symm⟩

/-- A visit with a table below it has a relation that leads there. -/
theorem relation?_of_below? {below : Table} (given : visit.below? naming entity = some below) :
    visit.relation? naming entity =
      some ⟨visit.table naming entity, visit.node.name, .text below.name,
        cardinalityOf visit.node.kind⟩ := by
  obtain ⟨container, rfl⟩ := eq_of_below?_eq given
  simp [relation?, container]

/-- The relation of a visit leaves its column. -/
theorem leaves_column {relation : Relation}
    (given : visit.relation? naming entity = some relation) :
    relation.table = visit.table naming entity ∧ relation.field = visit.node.name := by
  unfold relation? at given
  split at given
  · split at given
    · obtain rfl := Option.some.inj given
      exact ⟨rfl, rfl⟩
    · cases given
  · obtain rfl := Option.some.inj given
    exact ⟨rfl, rfl⟩

theorem relation?_isSome_iff (scalar : isScalarKind visit.node.kind = true) :
    (visit.relation? naming entity).isSome ↔
      visit.node.column.line =
        Source.fieldLine visit.node.name visit.node.kind.display (some "foreign_key") := by
  have written : visit.node.column.line =
      Source.fieldLine visit.node.name visit.node.kind.display (some "foreign_key") ↔
        ∃ target, visit.node.column.constraint = some (.foreignKey target) :=
    visit.node.column.line_eq_foreignKey_iff
  have constraint : visit.node.column.constraint =
      constraintOf visit.node.name visit.node.options := by
    simp [Node.column, scalar]
  rw [written, constraint, constraintOf_eq_foreignKey_iff]
  simp [relation?, scalar]

end Visit

section

variable (naming : Text → Text → Text) (model : EntityModel)

/-- The table of a visit that is walked after some others is the entity's own one, or is drawn below
one of these. -/
theorem column_drawn {before after : List Visit} {visit : Visit}
    (split : model.forest.walk = before ++ visit :: after) :
    ∃ table ∈ ⟨model.name.display, model.forest.map Node.column⟩ ::
        before.filterMap (Visit.below? naming model.name.display),
      table.name = visit.table naming model.name.display ∧ visit.node.column ∈ table.columns := by
  rcases Forest.walk_parent split with ⟨top, member⟩ | ⟨parent, parentMember, child⟩
  · refine ⟨_, List.mem_cons_self, ?_, List.mem_map_of_mem member⟩
    simp [Visit.table, top]
  · have drawn := List.mem_filterMap.mpr
      ⟨parent, parentMember, child.below?_eq naming model.name.display⟩
    exact ⟨_, List.mem_cons_of_mem _ drawn, rfl, List.mem_map_of_mem child.member⟩

/-- What the tables and the relations in a drawing of a model have to do with each other. -/
structure Agrees (drawing : Drawing) : Prop where
  relations : drawing.relations =
    model.forest.walk.filterMap (Visit.relation? naming model.name.display)
  /-- Every visit has its column in a table that is drawn. -/
  columns : ∀ visit ∈ model.forest.walk, ∃ table ∈ drawing.tables,
    table.name = visit.table naming model.name.display ∧ visit.node.column ∈ table.columns
  /-- A column has a relation exactly when it is written as a foreign key. -/
  foreignKeys : ∀ visit ∈ model.forest.walk, isScalarKind visit.node.kind = true →
    ((visit.relation? naming model.name.display).isSome ↔
      visit.node.column.line =
        Source.fieldLine visit.node.name visit.node.kind.display (some "foreign_key"))
  sources : ∀ relation ∈ drawing.relations,
    HasColumn drawing.tables relation.table relation.field
  /-- A relation from a column of an earlier table leads to every table but the first. -/
  targets : ∀ before table after, drawing.tables = before ++ table :: after → before ≠ [] →
    ∃ relation ∈ drawing.relations, relation.target = .text table.name ∧
      HasColumn before relation.table relation.field

theorem drawPurely_columns {visit : Visit} (member : visit ∈ model.forest.walk) :
    ∃ table ∈ (drawPurely naming model).tables,
      table.name = visit.table naming model.name.display ∧ visit.node.column ∈ table.columns := by
  obtain ⟨before, after, split⟩ := List.append_of_mem member
  obtain ⟨table, drawn, named, column⟩ := column_drawn naming model split
  refine ⟨table, ?_, named, column⟩
  rw [drawPurely_tables, split, List.filterMap_append, ← List.cons_append]
  exact List.mem_append_left _ drawn

theorem drawPurely_targets {before after : List Table} {table : Table}
    (split : (drawPurely naming model).tables = before ++ table :: after)
    (nested : before ≠ []) :
    ∃ relation ∈ (drawPurely naming model).relations, relation.target = .text table.name ∧
      HasColumn before relation.table relation.field := by
  cases before with
  | nil => exact (nested rfl).elim
  | cons own before =>
      rw [drawPurely_tables] at split
      simp only [List.cons_append, List.cons.injEq] at split
      obtain ⟨rfl, split⟩ := split
      obtain ⟨walked, rest, walk, rfl, behind⟩ := List.filterMap_eq_append_iff.mp split
      obtain ⟨skipped, visit, last, rfl, childless, below, -⟩ :=
        List.filterMap_eq_cons_iff.mp behind
      rw [← List.append_assoc] at walk
      obtain ⟨parent, drawn, named, column⟩ := column_drawn naming model walk
      refine ⟨⟨visit.table naming model.name.display, visit.node.name, .text table.name,
        cardinalityOf visit.node.kind⟩, ?_, rfl, parent, ?_, named, _, column, rfl⟩
      · rw [drawPurely_relations, walk]
        exact List.mem_filterMap.mpr ⟨visit, by simp, Visit.relation?_of_below? below⟩
      · rwa [List.filterMap_append, List.filterMap_eq_nil_iff.mpr childless, List.append_nil]
          at drawn

theorem drawPurely_agrees : Agrees naming model (drawPurely naming model) where
  relations := drawPurely_relations naming model
  columns _ member := drawPurely_columns naming model member
  foreignKeys _ _ scalar := Visit.relation?_isSome_iff scalar
  sources := by
    intro relation member
    rw [drawPurely_relations] at member
    obtain ⟨visit, walked, given⟩ := List.mem_filterMap.mp member
    obtain ⟨table, drawn, named, column⟩ := drawPurely_columns naming model walked
    obtain ⟨fromTable, fromField⟩ := Visit.leaves_column given
    exact ⟨table, drawn, named.trans fromTable.symm, _, column, fromField.symm⟩
  targets _ _ _ split nested := drawPurely_targets naming model split nested

end

/-- A rendering records the relations of the visits in all structures, entity by entity.  In the
drawing of each entity they agree with the tables. -/
theorem render_walked (naming : Text → Text → Text) (models : List EntityModel)
    (recorder : Recorder) :
    Id.run (Recorder.render (Naming.ofFunction naming) models recorder) =
        (drawingsText (models.map (drawPurely naming)),
          ⟨models.flatMap fun model =>
            model.forest.walk.filterMap (Visit.relation? naming model.name.display)⟩) ∧
      ∀ model ∈ models, Agrees naming model (drawPurely naming model) := by
  refine ⟨?_, fun model _ => drawPurely_agrees naming model⟩
  rw [Recorder.render_ofFunction, fullDiagram, fullRelations_walked]

/-- A table below another is named by the names of both. -/
def pathNaming (table field : Text) : Text :=
  table ++ "__" ++ field

/-- A model with every sort of field: a key, references that are unique or not, and containers with
and without fields. -/
def postModel : EntityModel where
  name := .text "Post"
  forest :=
    [⟨"_id", .text "ObjectID", Options.none, none⟩,
      ⟨"author", .text "ObjectID", ⟨false, false, .text "User"⟩, none⟩,
      ⟨"editor", .text "ObjectID", ⟨false, true, .text "User"⟩, none⟩,
      ⟨"comments", .text "Array", Options.none, some
        [⟨"by", .text "ObjectID", ⟨false, false, .text "User"⟩, none⟩]⟩,
      ⟨"meta", .text "Mixed", Options.none, none⟩]
  instanceMethods := [.text "publish"]
  staticMethods := [.text "label"]

theorem postModel_edges :
    let rendered :=
      Id.run (Recorder.render (Naming.ofFunction pathNaming) [postModel] Recorder.start)
    rendered.2.relations.map Relation.edge =
      ["Post.author -> User", "Post.comments -> Post__comments", "Post__comments.by -> User",
        "Post.meta -> Post__meta"].map Text.ofString ∧
      ∃ relation ∈ (drawPurely pathNaming postModel).relations,
        relation.target = .text "Post__comments" ∧
          HasColumn [⟨"Post", postModel.forest.map Node.column⟩] relation.table relation.field := by
  obtain ⟨rendered, agrees⟩ := render_walked pathNaming [postModel] Recorder.start
  refine ⟨by rw [rendered]; rfl, ?_⟩
  exact (agrees postModel List.mem_cons_self).targets _
    ⟨"Post__comments", [⟨"by", "ObjectID", some (.foreignKey (.text "User"))⟩]⟩ []
    (by rw [drawPurely_tables]; rfl) (by simp)

end EntityDiagram
