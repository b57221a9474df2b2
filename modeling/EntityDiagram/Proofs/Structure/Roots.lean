import EntityDiagram.Proofs.Structure.Insertion

/-!
# Roots of a forest

An insertion finds the root of its path among the nodes of the top level, or adds it behind them.
So the top level of a forest that is built from paths lists their roots, each where it occurs
first.  The main statement is `roots_wellNamed`.
-/

namespace EntityDiagram

/-- A forest before and after a change of the node of one name, which is added behind all others if
it is new. -/
inductive Forest.KeepsNodes (name : Text) : Forest → Forest → Prop
  | changed {before after : Forest} {old new : Node} (oldName : old.name = name)
      (newName : new.name = name) :
      KeepsNodes name (before ++ old :: after) (before ++ new :: after)
  | added {forest : Forest} {node : Node} (absent : name ∉ forest.map Node.name)
      (named : node.name = name) : KeepsNodes name forest (forest ++ [node])

theorem Forest.keepsNodes_update {change : Node → Node}
    (keepsName : ∀ node, (change node).name = node.name) (name : Text) (forest : Forest) :
    Forest.KeepsNodes name forest (forest.update name change) := by
  obtain ⟨before, after, absent, stands, updated⟩ := Forest.exists_update_eq name forest
  have named := Forest.nodeFor_name name forest
  rw [updated]
  generalize forest.nodeFor name = node at stands named ⊢
  have changedNamed : (change node).name = name := (keepsName node).trans named
  rcases stands with rfl | ⟨rfl, rfl, -⟩
  · exact .changed named changedNamed
  · exact .added absent changedNamed

/-- The top level of a forest lists the roots of its paths, each of them once. -/
theorem buildForest_names {paths : Paths} {forest : Forest}
    (built : buildForest paths = .ok forest) :
    forest.map Node.name = (paths.map fun entry => entry.1.root).eraseDups := by
  have names := growForest_names built
  simpa [List.removeAll] using names

/-- Insertions keep a forest well named and the nodes of its top level in their places, behind
which at most one is added.  A forest that is built from paths is well named, with the roots of the
paths at its top. -/
theorem roots_wellNamed :
    (∀ (forest : Forest) (name : Text) (path : List Text) (descriptor : Descriptor),
      forest.WellNamed → (∀ segment ∈ name :: path, CodePoint.char '.' ∉ segment) →
        descriptor.Complete →
          ∃ grown, forest.insert (name :: path) descriptor = (grown, none) ∧ grown.WellNamed ∧
            Forest.KeepsNodes name forest grown) ∧
    ∀ paths : Paths, (CompletePaths paths → ∃ built, buildForest paths = .ok built) ∧
      ∀ built, buildForest paths = .ok built → built.WellNamed ∧
        built.map Node.name = (paths.map fun entry => entry.1.root).eraseDups := by
  constructor
  · intro forest name path descriptor wellNamed pointless complete
    have keepsName := descriptor.change_name descriptor.growth.1
    refine ⟨_, complete.insert_eq (List.cons_ne_nil name path) forest, ?_, ?_⟩
    · refine wellNamed.updatePath pointless keepsName fun node nodeWellNamed => ?_
      exact descriptor.change_wellNamed descriptor.growth_wellNamed.1 nodeWellNamed
    · rw [Forest.updatePath_cons]
      exact Forest.keepsNodes_update (Forest.changeBelow_name keepsName path) name forest
  · intro paths
    refine ⟨fun pathsComplete => pathsComplete.buildForest, fun built builds => ?_⟩
    exact ⟨buildForest_wellNamed builds, buildForest_names builds⟩

/-- Paths of two roots; the last one replaces what the first one has left below its root. -/
def placePaths : Paths :=
  [("address.city", .ofKind (.text "String")), ("name", .ofKind (.text "String")),
    ("address", .typed (.text embeddedKind) Options.none
      (some [("geo.lat", .ofKind (.text "Number")), ("geo", .ofKind (.text "Mixed"))]) .missing)]

theorem placePaths_complete : CompletePaths placePaths := by
  simp only [CompletePaths, placePaths, List.forall_mem_cons]
  refine ⟨.ofKind _, .ofKind _, ?_, by simp⟩
  refine .typed (fun _ _ _ _ => trivial) ?_ fun present => (present rfl).elim
  rintro paths ⟨⟩
  simp only [List.forall_mem_cons]
  exact ⟨.ofKind _, .ofKind _, by simp⟩

theorem placePaths_roots :
    Forest.WellNamed [.fresh "name"] ∧
      (∀ segment ∈ (["address", "city"] : List Text), CodePoint.char '.' ∉ segment) ∧
      (Descriptor.ofKind (.text "String")).Complete ∧
      (∃ grown, Forest.insert [.fresh "name"] ["address", "city"] (.ofKind (.text "String")) =
          (grown, none) ∧ grown.WellNamed ∧ Forest.KeepsNodes "address" [.fresh "name"] grown) ∧
      CompletePaths placePaths ∧
      ∃ built, buildForest placePaths = .ok built ∧ built.WellNamed ∧
        built.map Node.name = ["address", "name"] := by
  have wellNamed : Forest.WellNamed [.fresh "name"] := by
    refine ⟨by simp, fun node member => ?_⟩
    rw [List.mem_singleton.mp member]
    exact .fresh (by decide)
  have pointless : ∀ segment ∈ (["address", "city"] : List Text), CodePoint.char '.' ∉ segment := by
    decide
  have complete : (Descriptor.ofKind (.text "String")).Complete := .ofKind _
  have inserted := roots_wellNamed.1 _ _ _ _ wellNamed pointless complete
  obtain ⟨returns, sound⟩ := roots_wellNamed.2 placePaths
  obtain ⟨built, builds⟩ := returns placePaths_complete
  obtain ⟨builtWellNamed, names⟩ := sound built builds
  refine ⟨wellNamed, pointless, complete, inserted, placePaths_complete, built, builds,
    builtWellNamed, names.trans ?_⟩
  decide

end EntityDiagram
