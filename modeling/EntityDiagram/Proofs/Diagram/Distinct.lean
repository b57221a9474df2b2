import EntityDiagram.Proofs.Diagram.Walk
import EntityDiagram.Proofs.Structure.WellNamed
import EntityDiagram.Proofs.Text.Identifier
import Mathlib.Data.List.Flatten
import Mathlib.Data.List.Induction
import Mathlib.Data.List.Nodup
import Mathlib.Data.List.Perm.Basic

/-!
# Distinct tables

In a walk over well-named structures no address comes twice.  A naming that is injective and that
never gives the name of an entity keeps addresses apart: the name of a table tells the entity and
all the names on the way.  The main statement is `fullDiagram_distinct`: no two tables of a full
diagram have the same name, no two columns of a table do, and no two relations the same source.
-/

namespace EntityDiagram

/-! ### Addresses -/

theorem Node.address_of_mem_walk {node : Node} {above : List Text} {visit : Visit}
    (member : visit ∈ node.walk above) : ∃ rest, visit.address = above ++ node.name :: rest := by
  induction node using Node.induction_on_childList generalizing above visit with
  | step node ih =>
      rcases Node.eq_or_below_of_mem_walk member with rfl | ⟨child, childMember, childWalk⟩
      · exact ⟨[], rfl⟩
      · obtain ⟨rest, address⟩ := ih child childMember childWalk
        exact ⟨child.name :: rest, by rw [address, List.append_assoc, List.singleton_append]⟩

/-- The walks below nodes of distinct names have no address in common. -/
theorem walkNodes_addresses_nodup_of_forall {above : List Text} {nodes : List Node}
    (distinct : (nodes.map Node.name).Nodup)
    (each : ∀ node ∈ nodes, ((node.walk above).map Visit.address).Nodup) :
    ((walkNodes above nodes).map Visit.address).Nodup := by
  rw [walkNodes_eq_flatMap, List.map_flatMap, List.nodup_flatMap]
  refine ⟨each, (List.pairwise_map.mp distinct).imp fun {first second} different => ?_⟩
  refine List.disjoint_left.mpr fun {address} inFirst inSecond => ?_
  obtain ⟨visit, visitMember, rfl⟩ := List.mem_map.mp inFirst
  obtain ⟨other, otherMember, same⟩ := List.mem_map.mp inSecond
  obtain ⟨rest, address⟩ := Node.address_of_mem_walk visitMember
  obtain ⟨otherRest, otherAddress⟩ := Node.address_of_mem_walk otherMember
  rw [address, otherAddress, List.append_cancel_left_eq] at same
  exact different (List.cons.inj same).1.symm

theorem Node.WellNamed.walk_addresses_nodup {node : Node} (wellNamed : node.WellNamed)
    (above : List Text) : ((node.walk above).map Visit.address).Nodup := by
  induction node using Node.induction_on_childList generalizing above with
  | step node ih =>
      rw [Node.walk_eq, List.map_cons, List.nodup_cons]
      split
      · simp
      · refine ⟨?_, walkNodes_addresses_nodup_of_forall wellNamed.childList.distinct
          fun child member => ih child member (wellNamed.childList.nodes child member) _⟩
        intro repeated
        rw [walkNodes_eq_flatMap] at repeated
        obtain ⟨visit, member, same⟩ := List.mem_map.mp repeated
        obtain ⟨child, -, childWalk⟩ := List.mem_flatMap.mp member
        obtain ⟨rest, address⟩ := Node.address_of_mem_walk childWalk
        rw [address, Visit.address] at same
        simp at same

theorem Forest.WellNamed.walk_addresses_nodup {forest : Forest} (wellNamed : forest.WellNamed) :
    (forest.walk.map Visit.address).Nodup :=
  walkNodes_addresses_nodup_of_forall wellNamed.distinct
    fun node member => (wellNamed.nodes node member).walk_addresses_nodup []

theorem Node.WellNamed.of_mem_walk {node : Node} (wellNamed : node.WellNamed) {above : List Text}
    {visit : Visit} (member : visit ∈ node.walk above) : visit.node.WellNamed := by
  induction node using Node.induction_on_childList generalizing above with
  | step node ih =>
      rcases Node.eq_or_below_of_mem_walk member with rfl | ⟨child, childMember, childWalk⟩
      · exact wellNamed
      · exact ih child childMember (wellNamed.childList.nodes child childMember) childWalk

theorem Forest.WellNamed.of_mem_walk {forest : Forest} (wellNamed : forest.WellNamed)
    {visit : Visit} (member : visit ∈ forest.walk) : visit.node.WellNamed := by
  rw [Forest.walk, walkNodes_eq_flatMap] at member
  obtain ⟨node, nodeMember, walked⟩ := List.mem_flatMap.mp member
  exact (wellNamed.nodes node nodeMember).of_mem_walk walked

/-! ### Names of tables and sources of relations -/

/-- The name of a table tells its entity and its address. -/
theorem foldl_naming_inj {naming : Text → Text → Text} (injective : Function.Injective2 naming)
    {entity other : Text} (new : ∀ table field, naming table field ≠ entity)
    (otherNew : ∀ table field, naming table field ≠ other) {address otherAddress : List Text}
    (same : address.foldl naming entity = otherAddress.foldl naming other) :
    entity = other ∧ address = otherAddress := by
  induction address using List.reverseRecOn generalizing otherAddress with
  | nil =>
      rcases List.eq_nil_or_concat' otherAddress with rfl | ⟨front, last, rfl⟩
      · exact ⟨same, rfl⟩
      · rw [List.foldl_concat] at same
        exact (new _ _ same.symm).elim
  | append_singleton address last ih =>
      rcases List.eq_nil_or_concat' otherAddress with rfl | ⟨front, otherLast, rfl⟩
      · rw [List.foldl_concat] at same
        exact (otherNew _ _ same).elim
      · rw [List.foldl_concat, List.foldl_concat] at same
        obtain ⟨sameTable, rfl⟩ := injective same
        obtain ⟨rfl, rfl⟩ := ih sameTable
        exact ⟨rfl, rfl⟩

/-- The last point of a source stands before the field, which has none. -/
theorem source_inj {table other field otherField : Text}
    (pointless : CodePoint.char '.' ∉ field) (otherPointless : CodePoint.char '.' ∉ otherField)
    (same : table ++ "." ++ field = other ++ "." ++ otherField) :
    table = other ∧ field = otherField := by
  have notPoint {name : Text} (pointless : CodePoint.char '.' ∉ name) :
      ∀ c ∈ name.reverse, (c != CodePoint.char '.') = true := by
    intro c member
    rw [bne_iff_ne]
    rintro rfl
    exact pointless (List.mem_reverse.mp member)
  have reversed := congrArg List.reverse same
  simp only [List.reverse_append, List.append_assoc] at reversed
  obtain ⟨fields, -, tables⟩ := append_cons_inj_of_all (notPoint pointless)
    (notPoint otherPointless) (by decide) (by decide) reversed
  exact ⟨List.reverse_inj.mp tables, List.reverse_inj.mp fields⟩

/-- All visits of the models, each with the name of its entity. -/
def visitsOf (models : List EntityModel) : List (Text × Visit) :=
  models.flatMap fun model => model.forest.walk.map fun visit => (model.name.display, visit)

theorem filterMap_map_sublist {α β γ : Type} {select : α → Option β} {shown : β → γ} {key : α → γ}
    (agrees : ∀ item chosen, select item = some chosen → shown chosen = key item) (items : List α) :
    ((items.filterMap select).map shown).Sublist (items.map key) := by
  induction items with
  | nil => exact .slnil
  | cons item items ih =>
      cases chosen : select item with
      | none => simpa [chosen] using ih.cons (key item)
      | some result => simpa [chosen, agrees item result chosen] using ih

section

variable {models : List EntityModel}
  (names : (models.map fun model => model.name.display).Nodup)
  (wellNamed : ∀ model ∈ models, model.forest.WellNamed)

include names wellNamed

theorem visitsOf_nodup :
    ((visitsOf models).map fun visit => (visit.1, visit.2.address)).Nodup := by
  rw [visitsOf, List.map_flatMap, List.nodup_flatMap]
  constructor
  · intro model member
    have addresses := (wellNamed model member).walk_addresses_nodup
    have paired : Function.Injective (Prod.mk model.name.display : List Text → _) :=
      fun _ _ same => (Prod.mk.inj same).2
    simpa [List.map_map, Function.comp_def] using addresses.map paired
  · refine (List.pairwise_map.mp names).imp fun {first second} different => ?_
    refine List.disjoint_left.mpr fun {key} inFirst inSecond => ?_
    simp only [List.map_map, List.mem_map, Function.comp_apply] at inFirst inSecond
    obtain ⟨visit, -, rfl⟩ := inFirst
    obtain ⟨other, -, same⟩ := inSecond
    exact different (congrArg Prod.fst same).symm

/-- What tells the entity and the address of a visit comes once. -/
theorem visitsOf_map_nodup {α : Type} (shown : Text × Visit → α)
    (tells : ∀ visit ∈ visitsOf models, ∀ other ∈ visitsOf models, shown visit = shown other →
      visit.1 = other.1 ∧ visit.2.address = other.2.address) :
    ((visitsOf models).map shown).Nodup := by
  have nodup := visitsOf_nodup names wellNamed
  refine List.Nodup.map_on ?_ (List.Nodup.of_map _ nodup)
  intro visit member other otherMember same
  refine List.inj_on_of_nodup_map nodup member otherMember ?_
  obtain ⟨entities, addresses⟩ := tells visit member other otherMember same
  rw [entities, addresses]

end

theorem exists_of_mem_visitsOf {models : List EntityModel} {visit : Text × Visit}
    (member : visit ∈ visitsOf models) :
    ∃ model ∈ models, model.name.display = visit.1 ∧ visit.2 ∈ model.forest.walk := by
  obtain ⟨model, modelMember, walked⟩ := List.mem_flatMap.mp member
  obtain ⟨found, foundMember, rfl⟩ := List.mem_map.mp walked
  exact ⟨model, modelMember, rfl, foundMember⟩

/-- What each visit gives at most one of, with a name that the visit tells. -/
theorem flatMap_filterMap_sublist {α β : Type} {models : List EntityModel}
    {select : Text → Visit → Option α} {shown : α → β} (key : Text × Visit → β)
    (agrees : ∀ entity visit chosen, select entity visit = some chosen →
      shown chosen = key (entity, visit)) :
    (models.flatMap fun model =>
        (model.forest.walk.filterMap (select model.name.display)).map shown).Sublist
      ((visitsOf models).map key) := by
  rw [visitsOf, List.map_flatMap]
  refine List.Sublist.flatMap_right _ fun model _ => ?_
  rw [List.map_map]
  exact filterMap_map_sublist (fun visit chosen given => agrees _ visit chosen given) _

section

variable {naming : Text → Text → Text} {models : List EntityModel}
  (names : (models.map fun model => model.name.display).Nodup)
  (wellNamed : ∀ model ∈ models, model.forest.WellNamed)
  (injective : Function.Injective2 naming)
  (new : ∀ model ∈ models, ∀ table field, naming table field ≠ model.name.display)

include new injective

theorem visitsOf_foldl_inj {visit other : Text × Visit} (member : visit ∈ visitsOf models)
    (otherMember : other ∈ visitsOf models) {address otherAddress : List Text}
    (same : address.foldl naming visit.1 = otherAddress.foldl naming other.1) :
    visit.1 = other.1 ∧ address = otherAddress := by
  obtain ⟨model, modelMember, entity, -⟩ := exists_of_mem_visitsOf member
  obtain ⟨otherModel, otherModelMember, otherEntity, -⟩ := exists_of_mem_visitsOf otherMember
  exact foldl_naming_inj injective (entity ▸ new model modelMember)
    (otherEntity ▸ new otherModel otherModelMember) same

include names wellNamed

/-- Tables below others are named after their addresses, so no two have the same name. -/
theorem below_names_nodup :
    (models.flatMap fun model =>
      (model.forest.walk.filterMap (Visit.below? naming model.name.display)).map
        Table.name).Nodup := by
  refine (visitsOf_map_nodup names wellNamed
    (fun visit => visit.2.address.foldl naming visit.1) ?_).sublist
      (flatMap_filterMap_sublist _ ?_)
  · intro visit member other otherMember same
    exact visitsOf_foldl_inj injective new member otherMember same
  · intro entity visit below given
    obtain ⟨-, rfl⟩ := Visit.eq_of_below?_eq given
    rw [Visit.address, List.foldl_concat, Visit.table]

/-- A source tells the table and the field, and the table tells the address above the field. -/
theorem sources_nodup : ((fullRelations naming models).map Relation.source).Nodup := by
  rw [fullRelations_walked, List.map_flatMap]
  refine (visitsOf_map_nodup names wellNamed
    (fun visit => visit.2.table naming visit.1 ++ "." ++ visit.2.node.name) ?_).sublist
      (flatMap_filterMap_sublist _ ?_)
  · intro visit member other otherMember same
    have pointless {visit : Text × Visit} (member : visit ∈ visitsOf models) :
        CodePoint.char '.' ∉ visit.2.node.name := by
      obtain ⟨model, modelMember, -, walked⟩ := exists_of_mem_visitsOf member
      exact ((wellNamed model modelMember).of_mem_walk walked).name
    obtain ⟨tables, fields⟩ := source_inj (pointless member) (pointless otherMember) same
    obtain ⟨entities, above⟩ := visitsOf_foldl_inj injective new member otherMember tables
    exact ⟨entities, by rw [Visit.address, Visit.address, above, fields]⟩
  · intro entity visit relation given
    obtain ⟨table, field⟩ := Visit.leaves_column given
    rw [Relation.source, table, field]

/-- Entities bear their own names, which no table below has. -/
theorem table_names_nodup :
    ((models.flatMap fun model => (drawPurely naming model).tables).map Table.name).Nodup := by
  have split : (models.flatMap fun model => (drawPurely naming model).tables).map Table.name =
      models.flatMap fun model => model.name.display ::
        (model.forest.walk.filterMap (Visit.below? naming model.name.display)).map Table.name := by
    rw [List.map_flatMap]
    exact List.flatMap_congr fun model _ => by rw [drawPurely_tables, List.map_cons]
  rw [split, ← (List.map_append_flatMap_perm models _ _).nodup_iff]
  refine List.nodup_append.mpr ⟨names, below_names_nodup names wellNamed injective new, ?_⟩
  intro name entity other below
  obtain ⟨model, member, rfl⟩ := List.mem_map.mp entity
  obtain ⟨otherModel, -, inModel⟩ := List.mem_flatMap.mp below
  obtain ⟨table, drawn, rfl⟩ := List.mem_map.mp inModel
  obtain ⟨visit, -, given⟩ := List.mem_filterMap.mp drawn
  obtain ⟨-, rfl⟩ := Visit.eq_of_below?_eq given
  exact (new model member _ _).symm

end

/-- The columns of a table are those of the nodes of one level. -/
theorem column_names_nodup (naming : Text → Text → Text) {model : EntityModel}
    (wellNamed : model.forest.WellNamed) {table : Table}
    (member : table ∈ (drawPurely naming model).tables) :
    (table.columns.map Column.name).Nodup := by
  have level {forest : Forest} (wellNamed : forest.WellNamed) :
      ((forest.map Node.column).map Column.name).Nodup := by
    rw [List.map_map]
    exact wellNamed.distinct
  rw [drawPurely_tables] at member
  rcases List.mem_cons.mp member with rfl | below
  · exact level wellNamed
  · obtain ⟨visit, walked, given⟩ := List.mem_filterMap.mp below
    obtain ⟨-, rfl⟩ := Visit.eq_of_below?_eq given
    exact level (wellNamed.of_mem_walk walked).childList

/-- In the full diagram of models that have different names and structures built from paths, all
tables have different names, as have all columns of a table, and no two relations have the same
source. -/
theorem fullDiagram_distinct {naming : Text → Text → Text} {models : List EntityModel}
    (names : (models.map fun model => model.name.display).Nodup)
    (built : ∀ model ∈ models, ∃ paths, buildForest paths = .ok model.forest)
    (injective : Function.Injective2 naming)
    (new : ∀ model ∈ models, ∀ table field, naming table field ≠ model.name.display)
    (recorder : Recorder) :
    let rendered := Id.run (Recorder.render (Naming.ofFunction naming) models recorder)
    let tables := models.flatMap fun model => (drawPurely naming model).tables
    rendered.1 = drawingsText (models.map (drawPurely naming)) ∧
      (tables.map Table.name).Nodup ∧
      (∀ table ∈ tables, (table.columns.map Column.name).Nodup) ∧
      (rendered.2.relations.map Relation.source).Nodup := by
  have wellNamed : ∀ model ∈ models, model.forest.WellNamed := by
    intro model member
    obtain ⟨paths, grown⟩ := built model member
    exact buildForest_wellNamed grown
  simp only [Recorder.render_ofFunction]
  refine ⟨rfl, table_names_nodup names wellNamed injective new, ?_,
    sources_nodup names wellNamed injective new⟩
  intro table member
  obtain ⟨model, modelMember, drawn⟩ := List.mem_flatMap.mp member
  exact column_names_nodup naming (wellNamed model modelMember) drawn

/-- A naming that marks every character of the table, so that its end can be told. -/
def markedNaming (table field : Text) : Text :=
  (table.flatMap fun c => [CodePoint.char '<', c]) ++ CodePoint.char '>' :: field

theorem markedNaming_injective : Function.Injective2 markedNaming := by
  intro table other field otherField same
  induction table generalizing other with
  | nil =>
      cases other with
      | nil => exact ⟨rfl, (List.cons.inj same).2⟩
      | cons c other => simp [markedNaming] at same
  | cons c table ih =>
      cases other with
      | nil => simp [markedNaming] at same
      | cons d other =>
          simp only [markedNaming, List.flatMap_cons, List.cons_append, List.nil_append,
            List.cons.injEq, true_and] at same
          obtain ⟨rfl, rest⟩ := same
          obtain ⟨rfl, fields⟩ := ih rest
          exact ⟨rfl, fields⟩

theorem head?_markedNaming (table field : Text) :
    (markedNaming table field).head? = some (CodePoint.char '<') ∨
      (markedNaming table field).head? = some (CodePoint.char '>') := by
  cases table <;> simp [markedNaming]

/-- Tags in a document, each with a reference. -/
def taggedPaths : Paths :=
  [("meta.tags", .typed (.text "Array") Options.none none
    (.typed (.text "Embedded") Options.none
      (some [("by", .typed (.text "ObjectID") ⟨false, false, .text "User"⟩ none .missing)])
      .missing))]

def taggedModels : List EntityModel :=
  let forest : Forest := [⟨"meta", .text "Embedded", Options.none, some
    [⟨"tags", .text "Array", Options.none, some
      [⟨"by", .text "ObjectID", ⟨false, false, .text "User"⟩, none⟩]⟩]⟩]
  [⟨.text "Post", forest, [], []⟩, ⟨.text "User", forest, [], []⟩]

theorem taggedModels_distinct :
    (∀ model ∈ taggedModels, ∃ paths, buildForest paths = .ok model.forest) ∧
      (∀ model ∈ taggedModels, ∀ table field, markedNaming table field ≠ model.name.display) ∧
      let rendered := Id.run
        (Recorder.render (Naming.ofFunction markedNaming) taggedModels Recorder.start)
      let tables := taggedModels.flatMap fun model => (drawPurely markedNaming model).tables
      (tables.map Table.name).Nodup ∧
        (∀ table ∈ tables, (table.columns.map Column.name).Nodup) ∧
        (rendered.2.relations.map Relation.source).Nodup := by
  have built : ∀ model ∈ taggedModels, ∃ paths, buildForest paths = .ok model.forest := by
    intro model member
    refine ⟨taggedPaths, ?_⟩
    simp only [taggedModels, List.mem_cons, List.not_mem_nil, or_false] at member
    rcases member with rfl | rfl <;> rfl
  have new : ∀ model ∈ taggedModels, ∀ table field,
      markedNaming table field ≠ model.name.display := by
    intro model member table field same
    have marked := head?_markedNaming table field
    have unmarked : ∀ model ∈ taggedModels,
        ¬ (model.name.display.head? = some (CodePoint.char '<') ∨
          model.name.display.head? = some (CodePoint.char '>')) := by
      decide
    exact unmarked model member (same ▸ marked)
  refine ⟨built, new, ?_⟩
  exact (fullDiagram_distinct (by decide) built markedNaming_injective new Recorder.start).2

end EntityDiagram
