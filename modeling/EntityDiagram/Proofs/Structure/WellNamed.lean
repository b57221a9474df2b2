import EntityDiagram.Proofs.Structure.Declared

/-!
# Well-named forests

A forest is well named when the nodes of every level have pairwise distinct names and no name has
a point in it.  Inserting a path finds a node before it creates one, and its segments have no
points, so an insertion keeps a forest well named.  The main statement is `buildForest_wellNamed`:
whatever the paths and their descriptors are, a forest that is built from them is well named.
-/

namespace EntityDiagram

open Text (segments)

/-- A node with a name without points, below which all levels are well named. -/
inductive Node.WellNamed : Node → Prop
  | mk {name : Text} {kind : Value} {options : Options} {children : Option (List Node)}
      (own : CodePoint.char '.' ∉ name)
      (distinct : ∀ nodes, children = some nodes → (nodes.map Node.name).Nodup)
      (below : ∀ nodes, children = some nodes → ∀ node ∈ nodes, WellNamed node) :
      WellNamed ⟨name, kind, options, children⟩

structure Forest.WellNamed (forest : Forest) : Prop where
  distinct : (forest.map Node.name).Nodup
  nodes : ∀ node ∈ forest, node.WellNamed

def Growth.WellNamed (growth : Growth) : Prop :=
  ∀ children, growth = .replace children → Forest.WellNamed children

theorem Node.WellNamed.name {node : Node} (wellNamed : node.WellNamed) :
    CodePoint.char '.' ∉ node.name := by
  cases wellNamed with
  | mk own _ _ => exact own

theorem Node.wellNamed_of_children {name : Text} (own : CodePoint.char '.' ∉ name) (kind : Value)
    (options : Options) {children : Option (List Node)}
    (below : ∀ nodes, children = some nodes → Forest.WellNamed nodes) :
    Node.WellNamed ⟨name, kind, options, children⟩ :=
  .mk own (fun nodes given => (below nodes given).distinct)
    fun nodes given => (below nodes given).nodes

theorem Node.WellNamed.children {node : Node} (wellNamed : node.WellNamed) {nodes : List Node}
    (given : node.children = some nodes) : Forest.WellNamed nodes := by
  cases wellNamed with
  | mk _ distinct below => exact ⟨distinct nodes given, below nodes given⟩

theorem Forest.WellNamed.nil : Forest.WellNamed [] := by
  refine ⟨List.nodup_nil, ?_⟩
  intro node member
  cases member

theorem Node.WellNamed.childList {node : Node} (wellNamed : node.WellNamed) :
    Forest.WellNamed node.childList := by
  unfold Node.childList
  cases given : node.children with
  | none => exact .nil
  | some nodes => exact wellNamed.children given

theorem Node.WellNamed.fresh {name : Text} (own : CodePoint.char '.' ∉ name) :
    (Node.fresh name).WellNamed := by
  refine Node.wellNamed_of_children own _ _ ?_
  intro nodes given
  cases given
  exact .nil

/-! ### Segments -/

/-- A path is cut at every point, so none is left in its segments. -/
theorem point_not_mem_cutAtPoints {path current segment : Text}
    (pointless : CodePoint.char '.' ∉ current) (member : segment ∈ Text.cutAtPoints current path) :
    CodePoint.char '.' ∉ segment := by
  induction path generalizing current with
  | nil =>
      rw [Text.cutAtPoints, List.mem_singleton] at member
      simpa [member] using pointless
  | cons c path ih =>
      rw [Text.cutAtPoints] at member
      split at member
      · rcases List.mem_cons.mp member with rfl | later
        · simpa using pointless
        · exact ih (by simp) later
      · next notPoint =>
          refine ih ?_ member
          rw [List.mem_cons, not_or]
          exact ⟨Ne.symm notPoint, pointless⟩

theorem point_not_mem_segments {path segment : Text} (member : segment ∈ segments path) :
    CodePoint.char '.' ∉ segment :=
  point_not_mem_cutAtPoints (by simp) member

/-! ### Insertions -/

/-- Updating a name keeps the names of a level in their order; a name that is new goes last. -/
theorem Forest.map_name_update {change : Node → Node}
    (keepsName : ∀ node, (change node).name = node.name) (name : Text) (forest : Forest) :
    (forest.update name change).map Node.name =
      if name ∈ forest.map Node.name then forest.map Node.name
      else forest.map Node.name ++ [name] := by
  induction forest with
  | nil => simp [Forest.update, keepsName, Node.fresh]
  | cons node forest ih =>
      rw [Forest.update]
      by_cases here : node.name = name
      · simp [here, keepsName]
      · rw [if_neg here, List.map_cons, ih, List.map_cons]
        by_cases later : name ∈ forest.map Node.name <;> simp [Ne.symm here, later]

theorem Forest.WellNamed.update {forest : Forest} (wellNamed : forest.WellNamed) {name : Text}
    (own : CodePoint.char '.' ∉ name) {change : Node → Node}
    (keepsName : ∀ node, (change node).name = node.name)
    (keeps : ∀ node, node.WellNamed → (change node).WellNamed) :
    (forest.update name change).WellNamed where
  distinct := by
    rw [Forest.map_name_update keepsName]
    split
    · exact wellNamed.distinct
    · next new =>
        refine List.nodup_append.mpr ⟨wellNamed.distinct, by simp, ?_⟩
        intro other member last lastMember
        rw [List.mem_singleton.mp lastMember]
        exact fun same => new (same ▸ member)
  nodes := by
    intro node member
    rcases Forest.mem_update member with same | rfl | ⟨old, oldMember, rfl⟩
    · exact wellNamed.nodes node same
    · exact keeps _ (.fresh own)
    · exact keeps old (wellNamed.nodes old oldMember)

/-- An insertion along segments without points keeps a forest well named.  The induction is on the
path, whose remainder is inserted among the children of the first node on the way. -/
theorem Forest.WellNamed.updatePath {forest : Forest} (wellNamed : forest.WellNamed)
    {path : List Text} (pointless : ∀ segment ∈ path, CodePoint.char '.' ∉ segment)
    {change : Node → Node} (keepsName : ∀ node, (change node).name = node.name)
    (keeps : ∀ node, node.WellNamed → (change node).WellNamed) :
    (forest.updatePath change path).WellNamed := by
  induction path generalizing forest with
  | nil => exact wellNamed
  | cons name path ih =>
      rw [Forest.updatePath_cons]
      refine wellNamed.update (pointless name List.mem_cons_self)
        (Forest.changeBelow_name keepsName path) fun node nodeWellNamed => ?_
      match path with
      | [] => exact keeps node nodeWellNamed
      | next :: rest =>
          have below := ih nodeWellNamed.childList
            fun segment member => pointless segment (List.mem_cons_of_mem name member)
          refine Node.wellNamed_of_children nodeWellNamed.name _ _ ?_
          intro nodes given
          cases given
          exact below

theorem Node.WellNamed.declare {node : Node} (wellNamed : node.WellNamed) {growth : Growth}
    (grown : growth.WellNamed) (kind : Value) (options : Options) :
    (node.declare kind options growth).WellNamed := by
  refine Node.wellNamed_of_children wellNamed.name _ _ fun nodes given => ?_
  cases growth with
  | keep => exact wellNamed.children given
  | replace replacement => exact grown nodes (congrArg Growth.replace (Option.some.inj given))
  | prune =>
      simp only [Growth.apply] at given
      split at given
      · cases given
      · exact wellNamed.children given

theorem Descriptor.change_wellNamed (descriptor : Descriptor) {growth : Growth}
    (grown : growth.WellNamed) {node : Node} (wellNamed : node.WellNamed) :
    (descriptor.change growth node).WellNamed := by
  cases descriptor with
  | missing => exact wellNamed
  | typed kind options schema element => exact wellNamed.declare grown kind options

/-! ### Growth -/

theorem growForest_wellNamed {paths : Paths}
    (grown : ∀ entry ∈ paths, entry.2.growth.1.WellNamed) {forest result : Forest}
    (wellNamed : forest.WellNamed) (grows : growForest forest paths = .ok result) :
    result.WellNamed := by
  refine growForest_keeps (fun entry member forest forestWellNamed => ?_) wellNamed grows
  exact forestWellNamed.updatePath (fun segment inPath => point_not_mem_segments inPath)
    (entry.2.change_name entry.2.growth.1)
    fun node nodeWellNamed => entry.2.change_wellNamed (grown entry member) nodeWellNamed

theorem itemNode_wellNamed (kind : Value) (options : Options) :
    (itemNode kind options).WellNamed := by
  refine Node.wellNamed_of_children (by decide) _ _ ?_
  intro nodes given
  cases given

/-- What a descriptor makes of the children of its node is well named, also where it is the element
of an array. -/
theorem Descriptor.growth_wellNamed (descriptor : Descriptor) :
    descriptor.growth.1.WellNamed ∧ descriptor.elementGrowth.1.WellNamed := by
  induction descriptor using Descriptor.induction_on with
  | missing => exact ⟨Growth.gives_keep, Growth.gives_keep⟩
  | typed kind options schema element nested inner =>
      have grown : ∀ paths, schema = some paths → ∀ forest, growForest [] paths = .ok forest →
          Forest.WellNamed forest := fun paths given forest grows =>
        growForest_wellNamed (fun entry member => (nested paths given entry member).1) .nil grows
      refine Descriptor.growth_gives grown inner.2 ⟨by simp, fun node member => ?_⟩
      rw [List.mem_singleton.mp member]
      exact itemNode_wellNamed kind options

/-- Every forest that is built from paths is well named. -/
theorem buildForest_wellNamed {paths : Paths} {forest : Forest}
    (built : buildForest paths = .ok forest) : forest.WellNamed :=
  growForest_wellNamed (fun entry _ => entry.2.growth_wellNamed.1) .nil built

end EntityDiagram
