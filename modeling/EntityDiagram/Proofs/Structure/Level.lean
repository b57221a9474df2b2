import EntityDiagram.Proofs.Structure.Siblings

/-!
# Changes of one level

An insertion changes nothing but one level of a forest: it updates a node there, and the node may
be new.  This file follows the changes of the level below an address, with parents created on
demand.  They are composed like functions, and only what they make of the nodes of that level
counts: these are the statements `updateLevel_updateLevel` and `updateLevel_congr`.
-/

namespace EntityDiagram

/-- Changes the children of a node, which has a list of them afterwards. -/
def Node.updateChildren (change : Forest → Forest) (node : Node) : Node :=
  { node with children := some (change node.childList) }

@[simp]
theorem Node.updateChildren_name (change : Forest → Forest) (node : Node) :
    (node.updateChildren change).name = node.name :=
  rfl

@[simp]
theorem Node.updateChildren_childList (change : Forest → Forest) (node : Node) :
    (node.updateChildren change).childList = change node.childList :=
  rfl

namespace Forest

/-- The node that a segment leads to; one that is not there is created. -/
def nodeFor (name : Text) (forest : Forest) : Node :=
  (forest.named? name).getD (Node.fresh name)

/-- The nodes below an address; there are none below a node that is still to be created. -/
def level : List Text → Forest → Forest
  | [], forest => forest
  | name :: rest, forest => Forest.level rest (forest.nodeFor name).childList

/-- Applies a change to the nodes below an address, with parents created on demand. -/
def updateLevel (change : Forest → Forest) : List Text → Forest → Forest
  | [], forest => change forest
  | name :: rest, forest =>
      forest.update name (Node.updateChildren (Forest.updateLevel change rest))

/-! ### Updating a node -/

theorem nodeFor_name (name : Text) (forest : Forest) : (forest.nodeFor name).name = name := by
  rw [nodeFor]
  cases found : forest.named? name with
  | none => rfl
  | some node => simpa using List.find?_some found

/-- An update changes the first node of its name where it stands, or else a fresh one behind all
others. -/
theorem exists_update_eq (name : Text) (forest : Forest) :
    ∃ before after : Forest, name ∉ before.map Node.name ∧
      (forest = before ++ forest.nodeFor name :: after ∨
        forest = before ∧ after = [] ∧ forest.nodeFor name = Node.fresh name) ∧
      ∀ change, forest.update name change = before ++ change (forest.nodeFor name) :: after := by
  induction forest with
  | nil => exact ⟨[], [], List.not_mem_nil, .inr ⟨rfl, rfl, rfl⟩, fun change => rfl⟩
  | cons node forest ih =>
      by_cases here : node.name = name
      · have sought : nodeFor name (node :: forest) = node := by
          simp [nodeFor, named?, here]
        refine ⟨[], forest, List.not_mem_nil, .inl (by rw [sought]; rfl), fun change => ?_⟩
        rw [Forest.update, if_pos here, sought]
        rfl
      · have sought : nodeFor name (node :: forest) = nodeFor name forest := by
          simp [nodeFor, named?, here]
        obtain ⟨before, after, absent, stands, updated⟩ := ih
        refine ⟨node :: before, after, ?_, ?_, fun change => ?_⟩
        · rw [List.map_cons, List.mem_cons, not_or]
          exact ⟨Ne.symm here, absent⟩
        · rw [sought]
          rcases stands with known | ⟨known, atEnd, fresh⟩
          · exact .inl (congrArg (node :: ·) known)
          · exact .inr ⟨congrArg (node :: ·) known, atEnd, fresh⟩
        · rw [Forest.update, if_neg here, updated, sought, List.cons_append]

/-- What an update makes of other nodes does not matter. -/
theorem update_congr {first second : Node → Node} {name : Text} {forest : Forest}
    (same : first (forest.nodeFor name) = second (forest.nodeFor name)) :
    forest.update name first = forest.update name second := by
  obtain ⟨before, after, -, -, updated⟩ := exists_update_eq name forest
  rw [updated, updated, same]

/-- A second update of a name meets the node that the first one has left. -/
theorem update_update {first : Node → Node} (keepsName : ∀ node, (first node).name = node.name)
    (second : Node → Node) (name : Text) (forest : Forest) :
    (forest.update name first).update name second = forest.update name (second ∘ first) := by
  induction forest with
  | nil => simp [Forest.update, keepsName, Node.fresh]
  | cons node forest ih =>
      by_cases here : node.name = name
      · simp [Forest.update, here, keepsName]
      · simp [Forest.update, here, ih]

/-- A name that no node bears is added behind all nodes. -/
theorem update_of_absent {forest : Forest} {name : Text} (absent : name ∉ forest.map Node.name)
    (change : Node → Node) :
    forest.update name change = forest ++ [change (Node.fresh name)] := by
  have behind := update_append absent change []
  rwa [List.append_nil] at behind

/-- Updates of two names commute where one of the two nodes is there already. -/
theorem update_comm {first second : Node → Node}
    (firstKeepsName : ∀ node, (first node).name = node.name)
    (secondKeepsName : ∀ node, (second node).name = node.name) {name other : Text}
    (different : name ≠ other) {forest : Forest}
    (known : name ∈ forest.map Node.name ∨ other ∈ forest.map Node.name) :
    (forest.update name first).update other second =
      (forest.update other second).update name first := by
  induction forest with
  | nil => simp at known
  | cons node forest ih =>
      by_cases isName : node.name = name
      · simp [Forest.update, isName, firstKeepsName, different]
      · by_cases isOther : node.name = other
        · simp [Forest.update, isOther, secondKeepsName, different.symm]
        · have knownBehind : name ∈ forest.map Node.name ∨ other ∈ forest.map Node.name := by
            simpa [Ne.symm isName, Ne.symm isOther] using known
          simp [Forest.update, isName, isOther, ih knownBehind]

/-! ### Changing a level -/

theorem updatePath_append {path : List Text} (nonempty : path ≠ []) (change : Node → Node)
    (address : List Text) (forest : Forest) :
    forest.updatePath change (address ++ path) =
      forest.updateLevel (Forest.updatePath change path) address := by
  induction address generalizing forest with
  | nil => rfl
  | cons name address ih =>
      rw [List.cons_append, updatePath_cons, updateLevel]
      refine congrArg (forest.update name) (funext fun node => ?_)
      obtain ⟨next, rest, continues⟩ :=
        List.exists_cons_of_ne_nil (List.append_ne_nil_of_right_ne_nil address nonempty)
      rw [continues, changeBelow, ← continues, ih]
      rfl

/-- Changes of one level are composed like functions. -/
theorem updateLevel_updateLevel (first second : Forest → Forest) (address : List Text)
    (forest : Forest) :
    (forest.updateLevel first address).updateLevel second address =
      forest.updateLevel (second ∘ first) address := by
  induction address generalizing forest with
  | nil => rfl
  | cons name address ih =>
      rw [updateLevel, updateLevel, update_update (Node.updateChildren_name _), updateLevel]
      refine congrArg (forest.update name) (funext fun node => ?_)
      exact congrArg (Node.updateChildren · node) (funext ih)

theorem level_updateLevel (change : Forest → Forest) (address : List Text) (forest : Forest) :
    (forest.updateLevel change address).level address = change (forest.level address) := by
  induction address generalizing forest with
  | nil => rfl
  | cons name address ih =>
      have changed : (forest.updateLevel change (name :: address)).nodeFor name =
          (forest.nodeFor name).updateChildren (Forest.updateLevel change address) := by
        rw [updateLevel, nodeFor, named?_update (Node.updateChildren_name _), if_pos rfl,
          Option.getD_some, nodeFor]
      rw [level, changed, Node.updateChildren_childList, level]
      exact ih _

/-- What a change makes of other nodes than those of its level does not matter. -/
theorem updateLevel_congr {first second : Forest → Forest} {address : List Text} {forest : Forest}
    (same : first (forest.level address) = second (forest.level address)) :
    forest.updateLevel first address = forest.updateLevel second address := by
  induction address generalizing forest with
  | nil => exact same
  | cons name address ih =>
      rw [updateLevel, updateLevel]
      apply update_congr
      rw [Node.updateChildren, Node.updateChildren, ih same]

end Forest

end EntityDiagram
