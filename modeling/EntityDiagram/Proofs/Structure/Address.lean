import EntityDiagram.Structure.Forest

/-!
# Addresses in a forest

An address is a list of segments; it leads from a forest to the first node of the first segment,
then to that node's first child of the second one, and so on.  The main statement is
`typeAt?_updatePath`: after an insertion the nodes on the way to its path are there, the node at
its path has been changed, the nodes below that one are those among the changed children, and
everything else is as before.
-/

namespace EntityDiagram

/-- The first node of a name. -/
def Forest.named? (forest : Forest) (name : Text) : Option Node :=
  forest.find? fun node => node.name = name

/-- The node at an address. -/
def Forest.at? : List Text → Forest → Option Node
  | [], _ => none
  | [name], forest => forest.named? name
  | name :: next :: rest, forest =>
      (forest.named? name).bind fun node => Forest.at? (next :: rest) node.childList

/-- The node at an address that starts from a node; an empty address stays there. -/
def Node.below? (node : Node) : List Text → Option Node
  | [] => some node
  | next :: rest => Forest.at? (next :: rest) node.childList

/-- The declared type of a node, with its options. -/
def Node.type (node : Node) : Value × Options :=
  (node.kind, node.options)

/-- The type at an address. -/
def Forest.typeAt? (forest : Forest) (address : List Text) : Option (Value × Options) :=
  (forest.at? address).map Node.type

/-- The type of a parent that is created on demand. -/
def parentType : Value × Options :=
  (.text embeddedKind, Options.none)

namespace Forest

@[simp]
theorem at?_empty (address : List Text) : Forest.at? address [] = none := by
  match address with
  | [] | [_] | _ :: _ :: _ => rfl

@[simp]
theorem typeAt?_empty (address : List Text) : Forest.typeAt? [] address = none := by
  simp [typeAt?]

theorem at?_cons (name : Text) (rest : List Text) (forest : Forest) :
    forest.at? (name :: rest) = (forest.named? name).bind fun node => node.below? rest := by
  match rest with
  | [] => simp [at?, Node.below?]
  | next :: rest => rfl

/-- Behind a node an address goes on among its children. -/
theorem at?_append {front : List Text} (nonempty : front ≠ []) (rest : List Text)
    (forest : Forest) :
    forest.at? (front ++ rest) = (forest.at? front).bind fun node => node.below? rest := by
  induction front generalizing forest with
  | nil => exact (nonempty rfl).elim
  | cons name front ih =>
      rw [List.cons_append, at?_cons, at?_cons, Option.bind_assoc]
      refine Option.bind_congr fun node _ => ?_
      match front with
      | [] => simp [Node.below?]
      | next :: front => exact ih (by simp) node.childList

/-- The node that an insertion changes: the one at the path, or a fresh one. -/
def target (path : List Text) (forest : Forest) : Node :=
  (forest.at? path).getD (Node.fresh (path.getLastD []))

/-! ### Updating one level -/

theorem named?_update {change : Node → Node} (keepsName : ∀ node, (change node).name = node.name)
    (name other : Text) (forest : Forest) :
    (forest.update name change).named? other =
      if other = name then some (change ((forest.named? name).getD (Node.fresh name)))
      else forest.named? other := by
  unfold named?
  induction forest with
  | nil =>
      by_cases same : other = name
      · simp [Forest.update, keepsName, same, Node.fresh]
      · simp [Forest.update, keepsName, same, Ne.symm same, Node.fresh]
  | cons node forest ih =>
      rw [Forest.update]
      by_cases here : node.name = name
      · by_cases same : other = name
        · simp [here, same, keepsName]
        · simp [here, same, Ne.symm same, keepsName]
      · simp only [if_neg here, List.find?_cons]
        by_cases found : node.name = other
        · have different : other ≠ name := fun same => here (found.trans same)
          simp [found, different]
        · simpa [found, here] using ih

/-- A node of an updated level was there before, or it is what the change makes of a fresh node or
of one that was there. -/
theorem mem_update {name : Text} {change : Node → Node} {forest : Forest} {node : Node}
    (member : node ∈ forest.update name change) :
    node ∈ forest ∨ node = change (Node.fresh name) ∨ ∃ old ∈ forest, node = change old := by
  induction forest with
  | nil =>
      rw [Forest.update, List.mem_singleton] at member
      exact .inr (.inl member)
  | cons first forest ih =>
      rw [Forest.update] at member
      split at member
      · rcases List.mem_cons.mp member with rfl | later
        · exact .inr (.inr ⟨first, List.mem_cons_self, rfl⟩)
        · exact .inl (List.mem_cons_of_mem first later)
      · rcases List.mem_cons.mp member with rfl | later
        · exact .inl List.mem_cons_self
        · rcases ih later with same | fresh | ⟨old, oldMember, changed⟩
          · exact .inl (List.mem_cons_of_mem first same)
          · exact .inr (.inl fresh)
          · exact .inr (.inr ⟨old, List.mem_cons_of_mem first oldMember, changed⟩)

/-! ### Inserting along a path -/

/-- The change that an insertion makes at the first node on its way. -/
def changeBelow (change : Node → Node) (path : List Text) (node : Node) : Node :=
  match path with
  | [] => change node
  | next :: rest =>
      { node with children := some (Forest.updatePath change (next :: rest) node.childList) }

theorem updatePath_cons (change : Node → Node) (name : Text) (path : List Text)
    (forest : Forest) :
    forest.updatePath change (name :: path) = forest.update name (changeBelow change path) := by
  match path with
  | [] => rw [updatePath]; rfl
  | next :: rest => rw [updatePath]; rfl

variable {change : Node → Node} (keepsName : ∀ node, (change node).name = node.name)

include keepsName

theorem changeBelow_name (path : List Text) (node : Node) :
    (changeBelow change path node).name = node.name := by
  match path with
  | [] => exact keepsName node
  | next :: rest => rfl

/-- Only addresses that start with the first segment of the path see an insertion. -/
theorem at?_updatePath_cons (name other : Text) (path rest : List Text) (forest : Forest) :
    (forest.updatePath change (name :: path)).at? (other :: rest) =
      if other = name then
        (changeBelow change path ((forest.named? name).getD (Node.fresh name))).below? rest
      else forest.at? (other :: rest) := by
  rw [updatePath_cons, at?_cons, named?_update (changeBelow_name keepsName path)]
  split
  · rw [Option.bind_some]
  · rw [at?_cons]

/-- The types at all addresses after an insertion.  The induction is on the path, whose remainder
is inserted among the children of the first node on the way. -/
theorem typeAt?_updatePath {path address : List Text} (pathNonempty : path ≠ [])
    (addressNonempty : address ≠ []) (forest : Forest) :
    (forest.updatePath change path).typeAt? address =
      if path = address then some (change (forest.target path)).type
      else if address <+: path then some ((forest.typeAt? address).getD parentType)
      else if path <+: address then
        (change (forest.target path)).childList.typeAt? (address.drop path.length)
      else forest.typeAt? address := by
  induction path generalizing forest address with
  | nil => exact (pathNonempty rfl).elim
  | cons name path ih =>
      match address with
      | [] => exact (addressNonempty rfl).elim
      | other :: rest =>
          simp only [typeAt?, at?_updatePath_cons keepsName, List.cons_prefix_cons]
          by_cases same : other = name
          · subst other
            have found (next : Text) (rest : List Text) :
                forest.at? (name :: next :: rest) =
                  ((forest.named? name).getD (Node.fresh name)).childList.at? (next :: rest) := by
              cases named : forest.named? name with
              | none => simp [at?, named, Node.fresh, Node.childList]
              | some node => simp [at?, named]
            match path, rest with
            | [], [] => simp [changeBelow, Node.below?, target, at?]
            | [], next :: rest => simp [changeBelow, Node.below?, target, at?]
            | next :: path, [] =>
                cases named : forest.named? name <;>
                  simp [changeBelow, Node.below?, at?, named, Node.type, Node.fresh, parentType]
            | next :: path, segment :: rest =>
                generalize (forest.named? name).getD (Node.fresh name) = node at found
                have descends : (changeBelow change (next :: path) node).below? (segment :: rest) =
                    (node.childList.updatePath change (next :: path)).at? (segment :: rest) := rfl
                have sameTarget : forest.target (name :: next :: path) =
                    node.childList.target (next :: path) := by
                  simp [target, found]
                have below : (node.childList.updatePath change (next :: path)).typeAt?
                    (segment :: rest) = _ := ih (by simp) (by simp) node.childList
                simp only [typeAt?] at below
                simpa [descends, found, sameTarget] using below
          · simp [same, Ne.symm same]

end Forest

end EntityDiagram
