import EntityDiagram.Proofs.Structure.Level
import Mathlib.Data.List.Basic

/-!
# Repeated and unrelated insertions

Inserting a path a second time changes nothing.  Two paths neither of which leads through the
other part at one level; their insertions can be exchanged there, and only two nodes that are both
new show which of them came first.  The main statements are `insert_again` and `insert_unrelated`.
-/

namespace EntityDiagram

/-! ### Insertions that succeed -/

theorem Descriptor.Complete.insert_eq {descriptor : Descriptor} (complete : descriptor.Complete)
    {path : List Text} (nonempty : path ≠ []) (forest : Forest) :
    forest.insert path descriptor =
      (forest.updatePath (descriptor.change descriptor.growth.1) path, none) := by
  obtain ⟨growth, grows⟩ := complete.grows.1
  obtain ⟨name, rest, rfl⟩ := List.exists_cons_of_ne_nil nonempty
  simp only [Forest.insert, grows]

/-- An insertion changes the level below a part of its path, by an update of the segment behind that
part. -/
theorem Descriptor.Complete.insert_eq_updateLevel {descriptor : Descriptor}
    (complete : descriptor.Complete) (front : List Text) (name : Text) (path : List Text)
    (forest : Forest) :
    forest.insert (front ++ name :: path) descriptor =
      (forest.updateLevel
        (Forest.update name (Forest.changeBelow (descriptor.change descriptor.growth.1) path))
        front, none) := by
  have updated := Forest.updatePath_cons (descriptor.change descriptor.growth.1) name path
  rw [complete.insert_eq (List.append_ne_nil_of_right_ne_nil front (List.cons_ne_nil name path)),
    Forest.updatePath_append (List.cons_ne_nil name path), funext updated]

/-! ### Repeated insertions -/

theorem Growth.apply_apply (growth : Growth) (children : Option Forest) :
    growth.apply (growth.apply children) = growth.apply children := by
  cases growth with
  | keep => rfl
  | replace replacement => rfl
  | prune =>
      match children with
      | none | some [] | some (_ :: _) => rfl

/-- A descriptor makes the same of a node whose type it has given before. -/
theorem Descriptor.change_comp_change (descriptor : Descriptor) (growth : Growth) :
    descriptor.change growth ∘ descriptor.change growth = descriptor.change growth := by
  funext node
  cases descriptor with
  | missing => rfl
  | typed kind options schema element =>
      simp [Descriptor.change, Node.declare, Growth.apply_apply]

/-- Changes at the end of one path are composed. -/
theorem Forest.updatePath_updatePath {first : Node → Node}
    (keepsName : ∀ node, (first node).name = node.name) (second : Node → Node) (path : List Text)
    (forest : Forest) :
    (forest.updatePath first path).updatePath second path =
      forest.updatePath (second ∘ first) path := by
  rcases List.eq_nil_or_concat' path with rfl | ⟨address, name, rfl⟩
  · rfl
  · have last : [name] ≠ [] := List.cons_ne_nil name []
    rw [updatePath_append last, updatePath_append last, updatePath_append last,
      updateLevel_updateLevel]
    refine updateLevel_congr ?_
    exact update_update keepsName second name _

/-- Inserting a path again, with the same descriptor, leaves the forest as it is. -/
theorem insert_again {path : List Text} (nonempty : path ≠ []) {descriptor : Descriptor}
    (complete : descriptor.Complete) (forest : Forest) :
    ∃ grown, forest.insert path descriptor = (grown, none) ∧
      grown.insert path descriptor = (grown, none) := by
  refine ⟨_, complete.insert_eq nonempty forest, ?_⟩
  rw [complete.insert_eq nonempty, Forest.updatePath_updatePath (descriptor.change_name _),
    descriptor.change_comp_change]

/-- An array of texts. -/
def tagsDescriptor : Descriptor :=
  .typed (.text arrayKind) Options.none none (.ofKind (.text "String"))

theorem tagsDescriptor_complete : tagsDescriptor.Complete := by
  refine .typed ?_ ?_ fun _ => .ofKind _
  · rintro paths ⟨⟩
  · rintro paths ⟨⟩

/-- An array that is inserted below a node without children, with its element as `item` node. -/
theorem tags_again :
    (["post", "tags"] : List Text) ≠ [] ∧ tagsDescriptor.Complete ∧
      ∃ grown, Forest.insert
          [⟨"post", .text "Mixed", Options.none, none⟩] ["post", "tags"] tagsDescriptor =
            (grown, none) ∧
        grown = [⟨"post", .text "Mixed", Options.none,
          some [⟨"tags", .text "Array", Options.none,
            some [⟨"item", .text "String", Options.none, none⟩]⟩]⟩] ∧
        grown.insert ["post", "tags"] tagsDescriptor = (grown, none) := by
  have nonempty : (["post", "tags"] : List Text) ≠ [] := List.cons_ne_nil _ _
  obtain ⟨grown, inserted, again⟩ := insert_again nonempty tagsDescriptor_complete
    [⟨"post", .text "Mixed", Options.none, none⟩]
  refine ⟨nonempty, tagsDescriptor_complete, grown, inserted, ?_, again⟩
  exact (Prod.mk.inj inserted).1.symm

/-! ### Unrelated insertions -/

/-- The segments that two paths share before they part. -/
def sharedFront : List Text → List Text → List Text
  | name :: path, other :: rest => if name = other then name :: sharedFront path rest else []
  | _, _ => []

/-- Paths neither of which leads through the other part behind their shared segments. -/
theorem exists_parting {first second : List Text} (notAbove : ¬ first <+: second)
    (notBelow : ¬ second <+: first) :
    ∃ name path other rest, name ≠ other ∧ first = sharedFront first second ++ name :: path ∧
      second = sharedFront first second ++ other :: rest := by
  induction first generalizing second with
  | nil => exact (notAbove List.nil_prefix).elim
  | cons name path ih =>
      cases second with
      | nil => exact (notBelow List.nil_prefix).elim
      | cons other rest =>
          by_cases same : name = other
          · subst other
            rw [List.cons_prefix_cons, not_and] at notAbove notBelow
            obtain ⟨parted, beyond, otherParted, otherBeyond, different, firstParts,
              secondParts⟩ := ih (notAbove rfl) (notBelow rfl)
            refine ⟨parted, beyond, otherParted, otherBeyond, different, ?_, ?_⟩
            · rw [sharedFront, if_pos rfl, List.cons_append, ← firstParts]
            · rw [sharedFront, if_pos rfl, List.cons_append, ← secondParts]
          · refine ⟨name, path, other, rest, same, ?_, ?_⟩
            · rw [sharedFront, if_neg same, List.nil_append]
            · rw [sharedFront, if_neg same, List.nil_append]

namespace Forest

/-- Below an address a forest has the nodes that it had before, and one more behind them. -/
def Gains (forest : Forest) (address : List Text) (node : Node) (grown : Forest) : Prop :=
  grown.level address = forest.level address ++ [node]

/-- Two forests that differ in nothing but the order of the last two nodes below an address, which
stand behind other nodes there. -/
inductive LastSwapped (nodes : Forest) (first second : Node) :
    List Text → Forest → Forest → Prop
  | here : LastSwapped nodes first second [] (nodes ++ [first, second]) (nodes ++ [second, first])
  | under {name : Text} {address : List Text} {before after children others : Forest}
      {node : Node} (absent : name ∉ before.map Node.name) (named : node.name = name)
      (inner : LastSwapped nodes first second address children others) :
      LastSwapped nodes first second (name :: address)
        (before ++ { node with children := some children } :: after)
        (before ++ { node with children := some others } :: after)

theorem update_eq_append_iff {change : Node → Node}
    (keepsName : ∀ node, (change node).name = node.name) {name : Text} {forest : Forest}
    {node : Node} :
    forest.update name change = forest ++ [node] ↔
      name ∉ forest.map Node.name ∧ node = change (Node.fresh name) := by
  by_cases known : name ∈ forest.map Node.name
  · -- The names of a level stay as they are when a known node is updated, and so does its length.
    have names := map_name_update keepsName name forest
    rw [if_pos known] at names
    refine iff_of_false (fun gained => ?_) fun absent => absent.1 known
    rw [gained] at names
    simpa using congrArg List.length names
  · rw [update_of_absent known, List.append_cancel_left_eq, List.singleton_inj]
    exact ⟨fun same => ⟨known, same.symm⟩, fun given => given.2.symm⟩

/-- Changes that differ in the order of two nodes below an address.  The induction follows the
first nodes of the address, beside which nothing changes. -/
theorem lastSwapped_updateLevel {change other : Forest → Forest} {first second : Node}
    {address : List Text} {forest : Forest}
    (changed : change (forest.level address) = forest.level address ++ [first, second])
    (swapped : other (forest.level address) = forest.level address ++ [second, first]) :
    LastSwapped (forest.level address) first second address (forest.updateLevel change address)
      (forest.updateLevel other address) := by
  induction address generalizing forest with
  | nil =>
      rw [level] at changed swapped
      rw [updateLevel, updateLevel, changed, swapped]
      exact .here
  | cons name address ih =>
      obtain ⟨before, after, absent, -, updated⟩ := exists_update_eq name forest
      rw [updateLevel, updateLevel, updated, updated]
      exact .under absent (nodeFor_name name forest) (ih changed swapped)

section

variable {change other : Node → Node} (keepsName : ∀ node, (change node).name = node.name)
  (otherKeepsName : ∀ node, (other node).name = node.name) {name second : Text}
  (different : name ≠ second) {forest : Forest}

include keepsName otherKeepsName different

/-- Two new nodes stand in the order in which they were added. -/
theorem update_update_of_gains {node next : Node}
    (gained : forest.update name change = forest ++ [node])
    (gainedNext : forest.update second other = forest ++ [next]) :
    (forest.update name change).update second other = forest ++ [node, next] := by
  obtain ⟨absent, rfl⟩ := (update_eq_append_iff keepsName).mp gained
  obtain ⟨absentNext, rfl⟩ := (update_eq_append_iff otherKeepsName).mp gainedNext
  have stillAbsent : second ∉ (forest ++ [change (Node.fresh name)]).map Node.name := by
    simpa [keepsName, Node.fresh, different.symm] using absentNext
  rw [gained, update_of_absent stillAbsent, List.append_assoc]
  rfl

/-- Unless both nodes are new, the order of the updates does not show. -/
theorem update_comm_of_not_gains
    (notBoth : ¬ ∃ node next, forest.update name change = forest ++ [node] ∧
      forest.update second other = forest ++ [next]) :
    (forest.update name change).update second other =
      (forest.update second other).update name change := by
  apply update_comm keepsName otherKeepsName different
  by_contra known
  obtain ⟨new, nextNew⟩ := not_or.mp known
  exact notBoth ⟨_, _, update_of_absent new change, update_of_absent nextNew other⟩

end

end Forest

/-- Insertions of two paths neither of which leads through the other.  If both create a node where
the paths part, the forests differ in the order of these two nodes; otherwise they are equal. -/
theorem insert_unrelated {first second : List Text} (notAbove : ¬ first <+: second)
    (notBelow : ¬ second <+: first) {descriptor other : Descriptor}
    (complete : descriptor.Complete) (otherComplete : other.Complete) (forest : Forest) :
    ∃ afterFirst afterSecond secondLast firstLast : Forest,
      forest.insert first descriptor = (afterFirst, none) ∧
      forest.insert second other = (afterSecond, none) ∧
      afterFirst.insert second other = (secondLast, none) ∧
      afterSecond.insert first descriptor = (firstLast, none) ∧
      (∀ node next, forest.Gains (sharedFront first second) node afterFirst →
        forest.Gains (sharedFront first second) next afterSecond →
          Forest.LastSwapped (forest.level (sharedFront first second)) node next
            (sharedFront first second) secondLast firstLast) ∧
      ((¬ ∃ node next, forest.Gains (sharedFront first second) node afterFirst ∧
        forest.Gains (sharedFront first second) next afterSecond) → secondLast = firstLast) := by
  -- Both insertions change the level behind the shared front, by updates of two names.
  obtain ⟨name, path, otherName, rest, different, firstParts, secondParts⟩ :=
    exists_parting notAbove notBelow
  generalize sharedFront first second = front at firstParts secondParts ⊢
  have inserted := complete.insert_eq_updateLevel front name path
  have otherInserted := otherComplete.insert_eq_updateLevel front otherName rest
  rw [← firstParts] at inserted
  rw [← secondParts] at otherInserted
  have keepsName := Forest.changeBelow_name (descriptor.change_name descriptor.growth.1) path
  have otherKeepsName := Forest.changeBelow_name (other.change_name other.growth.1) rest
  refine ⟨_, _, _, _, inserted _, otherInserted _, otherInserted _, inserted _, ?_, ?_⟩
  · intro node next gained gainedNext
    rw [Forest.Gains, Forest.level_updateLevel] at gained gainedNext
    rw [Forest.updateLevel_updateLevel, Forest.updateLevel_updateLevel]
    apply Forest.lastSwapped_updateLevel
    · exact Forest.update_update_of_gains keepsName otherKeepsName different gained gainedNext
    · exact Forest.update_update_of_gains otherKeepsName keepsName different.symm gainedNext gained
  · intro notBoth
    simp only [Forest.Gains, Forest.level_updateLevel] at notBoth
    rw [Forest.updateLevel_updateLevel, Forest.updateLevel_updateLevel]
    apply Forest.updateLevel_congr
    exact Forest.update_comm_of_not_gains keepsName otherKeepsName different notBoth

def cityPath : List Text := ["address", "city"]

def latitudePath : List Text := ["address", "geo", "lat"]

/-- Two paths that part below their first segment: in an empty forest both nodes are new there, in
the other forest one of them is not. -/
theorem cityPath_latitudePath_unrelated :
    ¬ cityPath <+: latitudePath ∧ ¬ latitudePath <+: cityPath ∧
      (Descriptor.ofKind (.text "String")).Complete ∧
      (Descriptor.ofKind (.text "Number")).Complete ∧
      (∃ afterCity afterLatitude latitudeLast cityLast : Forest,
        Forest.insert [] cityPath (.ofKind (.text "String")) = (afterCity, none) ∧
        Forest.insert [] latitudePath (.ofKind (.text "Number")) = (afterLatitude, none) ∧
        afterCity.insert latitudePath (.ofKind (.text "Number")) = (latitudeLast, none) ∧
        afterLatitude.insert cityPath (.ofKind (.text "String")) = (cityLast, none) ∧
        Forest.LastSwapped [] ⟨"city", .text "String", Options.none, none⟩
          ⟨"geo", .text "Embedded", Options.none,
            some [⟨"lat", .text "Number", Options.none, none⟩]⟩
          ["address"] latitudeLast cityLast) ∧
      ∃ afterCity afterLatitude latitudeLast : Forest,
        Forest.insert [.parent "address" [.fresh "city"]] cityPath (.ofKind (.text "String")) =
          (afterCity, none) ∧
        Forest.insert [.parent "address" [.fresh "city"]] latitudePath
          (.ofKind (.text "Number")) = (afterLatitude, none) ∧
        afterCity.insert latitudePath (.ofKind (.text "Number")) = (latitudeLast, none) ∧
        afterLatitude.insert cityPath (.ofKind (.text "String")) = (latitudeLast, none) := by
  have notAbove : ¬ cityPath <+: latitudePath := by decide
  have notBelow : ¬ latitudePath <+: cityPath := by decide
  have text : (Descriptor.ofKind (.text "String")).Complete := .ofKind _
  have number : (Descriptor.ofKind (.text "Number")).Complete := .ofKind _
  refine ⟨notAbove, notBelow, text, number, ?_, ?_⟩
  · obtain ⟨afterCity, afterLatitude, latitudeLast, cityLast, city, latitude, cityFirst,
      latitudeFirst, swapped, -⟩ := insert_unrelated notAbove notBelow text number []
    refine ⟨afterCity, afterLatitude, latitudeLast, cityLast, city, latitude, cityFirst,
      latitudeFirst, ?_⟩
    obtain rfl := (Prod.mk.inj city).1
    obtain rfl := (Prod.mk.inj latitude).1
    exact swapped _ _ rfl rfl
  · obtain ⟨afterCity, afterLatitude, latitudeLast, cityLast, city, latitude, cityFirst,
      latitudeFirst, -, same⟩ :=
        insert_unrelated notAbove notBelow text number [.parent "address" [.fresh "city"]]
    have notBoth : ¬ ∃ node next,
        Forest.Gains [.parent "address" [.fresh "city"]] (sharedFront cityPath latitudePath) node
          afterCity ∧
        Forest.Gains [.parent "address" [.fresh "city"]] (sharedFront cityPath latitudePath) next
          afterLatitude := by
      rintro ⟨node, next, gained, -⟩
      obtain rfl := (Prod.mk.inj city).1
      have lengths : 1 = 2 := congrArg List.length gained
      cases lengths
    obtain rfl := same notBoth
    exact ⟨afterCity, afterLatitude, _, city, latitude, cityFirst, latitudeFirst⟩

end EntityDiagram
