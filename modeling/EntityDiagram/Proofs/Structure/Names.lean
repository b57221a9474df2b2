import EntityDiagram.Proofs.Structure.Declared

/-!
# Names in a forest

The nodes of a forest are named by the segments of the paths that it was built from, apart from
the `item` nodes of arrays.  A property of all segments is therefore one of all names, at every
depth.
-/

namespace EntityDiagram

open Text (segments)

/-- A node that bears an allowed name, as all nodes below it do. -/
inductive Node.NamesWithin (allowed : Text → Prop) : Node → Prop
  | mk {name : Text} {kind : Value} {options : Options} {children : Option (List Node)}
      (own : allowed name)
      (below : ∀ nodes, children = some nodes → ∀ node ∈ nodes, NamesWithin allowed node) :
      NamesWithin allowed ⟨name, kind, options, children⟩

def Forest.NamesWithin (allowed : Text → Prop) (forest : Forest) : Prop :=
  ∀ node ∈ forest, node.NamesWithin allowed

def Growth.NamesWithin (allowed : Text → Prop) (growth : Growth) : Prop :=
  ∀ children, growth = .replace children → Forest.NamesWithin allowed children

/-- A path whose segments are all allowed as names. -/
def SegmentsWithin (allowed : Text → Prop) (path : Text) : Prop :=
  ∀ segment ∈ segments path, allowed segment

section

variable {allowed : Text → Prop}

theorem Node.NamesWithin.childList {node : Node} (within : node.NamesWithin allowed) :
    Forest.NamesWithin allowed node.childList := by
  cases within with
  | @mk name kind options children own below =>
      cases children with
      | none => simp [Node.childList, Forest.NamesWithin]
      | some nodes => exact below nodes rfl

theorem Node.NamesWithin.fresh {name : Text} (own : allowed name) :
    (Node.fresh name).NamesWithin allowed := by
  refine .mk own ?_
  intro nodes empty
  cases empty
  simp

theorem Node.NamesWithin.declare {node : Node} (within : node.NamesWithin allowed)
    {growth : Growth} (grown : growth.NamesWithin allowed) (kind : Value) (options : Options) :
    (node.declare kind options growth).NamesWithin allowed := by
  cases within with
  | @mk name oldKind oldOptions children own below =>
      refine .mk own fun nodes given => ?_
      cases growth with
      | keep => exact below nodes given
      | replace replacement =>
          exact grown nodes (congrArg Growth.replace (Option.some.inj given))
      | prune =>
          simp only [Growth.apply] at given
          split at given
          · cases given
          · exact below nodes given

theorem Descriptor.change_namesWithin (descriptor : Descriptor) {growth : Growth}
    (grown : growth.NamesWithin allowed) {node : Node} (within : node.NamesWithin allowed) :
    (descriptor.change growth node).NamesWithin allowed := by
  cases descriptor with
  | missing => exact within
  | typed kind options schema element => exact within.declare grown kind options

theorem Forest.NamesWithin.update {forest : Forest} (within : Forest.NamesWithin allowed forest)
    {name : Text} (own : allowed name) {change : Node → Node}
    (keeps : ∀ node, node.NamesWithin allowed → (change node).NamesWithin allowed) :
    Forest.NamesWithin allowed (forest.update name change) := by
  intro node member
  rcases Forest.mem_update member with same | rfl | ⟨old, oldMember, rfl⟩
  · exact within node same
  · exact keeps _ (.fresh own)
  · exact keeps old (within old oldMember)

theorem Forest.NamesWithin.updatePath {forest : Forest}
    (within : Forest.NamesWithin allowed forest) {path : List Text}
    (segmentsWithin : ∀ segment ∈ path, allowed segment) {change : Node → Node}
    (keeps : ∀ node, node.NamesWithin allowed → (change node).NamesWithin allowed) :
    Forest.NamesWithin allowed (forest.updatePath change path) := by
  induction path generalizing forest with
  | nil => exact within
  | cons name path ih =>
      rw [Forest.updatePath_cons]
      refine within.update (segmentsWithin name List.mem_cons_self) fun node nodeWithin => ?_
      match path with
      | [] => exact keeps node nodeWithin
      | next :: rest =>
          have childrenWithin := ih nodeWithin.childList
            fun segment member => segmentsWithin segment (List.mem_cons_of_mem name member)
          cases nodeWithin with
          | mk own _ =>
              refine .mk own fun nodes given => ?_
              cases given
              exact childrenWithin

theorem growForest_namesWithin {paths : Paths}
    (segmentsWithin : ∀ entry ∈ paths, SegmentsWithin allowed entry.1)
    (growthWithin : ∀ entry ∈ paths, entry.2.growth.1.NamesWithin allowed)
    {forest grown : Forest} (within : Forest.NamesWithin allowed forest)
    (grows : growForest forest paths = .ok grown) : Forest.NamesWithin allowed grown := by
  refine growForest_keeps (fun entry member forest forestWithin => ?_) within grows
  exact forestWithin.updatePath (segmentsWithin entry member)
    fun node nodeWithin => entry.2.change_namesWithin (growthWithin entry member) nodeWithin

/-- A descriptor gives allowed names to the children of its node, as does one that is the element
of an array. -/
theorem Descriptor.PathsWithin.growth_namesWithin (item : allowed "item")
    {descriptor : Descriptor} (within : descriptor.PathsWithin (SegmentsWithin allowed)) :
    descriptor.growth.1.NamesWithin allowed ∧ descriptor.elementGrowth.1.NamesWithin allowed := by
  induction within with
  | @typed kind options schema element paths nested inner nestedWithin innerWithin =>
      have grown : ∀ inner, schema = some inner → ∀ forest, growForest [] inner = .ok forest →
          Forest.NamesWithin allowed forest := by
        intro inner given forest grows
        refine growForest_namesWithin (paths inner given) ?_ (by simp [Forest.NamesWithin]) grows
        exact fun entry member => (nestedWithin inner given entry member).1
      have elementWithin : element.elementGrowth.1.NamesWithin allowed := by
        cases element with
        | missing => exact Growth.gives_keep
        | typed => exact (innerWithin (by simp)).2
      refine Descriptor.growth_gives grown elementWithin fun node member => ?_
      rw [List.mem_singleton.mp member]
      refine .mk item ?_
      rintro nodes ⟨⟩

/-- Every name in the forest of paths is a segment of a path, of a nested one, or `item`. -/
theorem buildForest_namesWithin (item : allowed "item") {paths : Paths}
    (segmentsWithin : ∀ entry ∈ paths, SegmentsWithin allowed entry.1)
    (nestedWithin : ∀ entry ∈ paths, entry.2.PathsWithin (SegmentsWithin allowed))
    {forest : Forest} (built : buildForest paths = .ok forest) :
    Forest.NamesWithin allowed forest :=
  growForest_namesWithin segmentsWithin
    (fun entry member => ((nestedWithin entry member).growth_namesWithin item).1)
    (by simp [Forest.NamesWithin]) built

end

end EntityDiagram
