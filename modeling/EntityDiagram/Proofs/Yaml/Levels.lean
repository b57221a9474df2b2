import EntityDiagram.Proofs.Outcome
import EntityDiagram.Yaml.Document

/-!
# All collections are filled

The collections of a document are filled level by level, and what a collection holds is at least one
level lower than itself.  So the levels of the root are turns enough, and in the end no collection
waits.  The main statement is `readScalars_waiting`.
-/

namespace EntityDiagram.Yaml

variable {α β : Type} {bound : Nat}

theorem Node.levels_pos (node : Node) : 0 < node.levels := by
  cases node <;> simp [Node.levels]

theorem Node.levels_le_itemLevels {items : List Node} {item : Node} (member : item ∈ items) :
    item.levels ≤ itemLevels items := by
  induction items with
  | nil => cases member
  | cons first rest ih =>
      rw [itemLevels]
      rcases List.mem_cons.mp member with rfl | later
      · omega
      · have := ih later
        omega

/-! ### Merged entries -/

/-- An entry is made of nodes that are nested at most so deep. -/
def EntryWithin (bound : Nat) (entry : Node × Node) : Prop :=
  entry.1.levels ≤ bound ∧ entry.2.levels ≤ bound

theorem EntryWithin.mono {entry : Node × Node} {wider : Nat} (within : EntryWithin bound entry)
    (le : bound ≤ wider) : EntryWithin wider entry :=
  ⟨Nat.le_trans within.1 le, Nat.le_trans within.2 le⟩

theorem entryWithin_of_mem {entries : List (Node × Node)} {entry : Node × Node}
    (member : entry ∈ entries) : EntryWithin (Node.entryLevels entries) entry := by
  induction entries with
  | nil => cases member
  | cons first rest ih =>
      rw [Node.entryLevels]
      rcases List.mem_cons.mp member with rfl | later
      · exact ⟨by omega, by omega⟩
      · exact (ih later).mono (by omega)

mutual

theorem mergedEntries_within :
    (entries : List (Node × Node)) → {entry : Node × Node} → entry ∈ mergedEntries entries →
      EntryWithin (Node.entryLevels entries) entry
  | [], _, member => by cases member
  | (key, value) :: rest, entry, member => by
      rw [Node.entryLevels]
      rw [mergedEntries] at member
      split at member
      · rcases List.mem_append.mp member with here | later
        · exact (entriesToMerge_within value here).mono (by omega)
        · exact (mergedEntries_within rest later).mono (by omega)
      · exact (mergedEntries_within rest member).mono (by omega)

theorem entriesToMerge_within :
    (node : Node) → {entry : Node × Node} → entry ∈ entriesToMerge node →
      EntryWithin node.levels entry
  | .scalar _ _, _, member => by cases member
  | .sequence _ items, entry, member => by
      rw [Node.levels]
      exact (entriesOfLists_within items member).mono (by omega)
  | .mapping _ entries, entry, member => by
      rw [Node.levels]
      rcases List.mem_append.mp member with merged | own
      · exact (mergedEntries_within entries merged).mono (by omega)
      · exact (entryWithin_of_mem (List.mem_filter.mp own).1).mono (by omega)

theorem entriesOfLists_within :
    (items : List Node) → {entry : Node × Node} → entry ∈ entriesOfLists items →
      EntryWithin (Node.itemLevels items) entry
  | [], _, member => by cases member
  | item :: rest, entry, member => by
      rw [Node.itemLevels]
      rcases List.mem_append.mp member with later | here
      · exact (entriesOfLists_within rest later).mono (by omega)
      · exact (entriesToMerge_within item here).mono (by omega)

end

theorem allEntries_within {entries : List (Node × Node)} {entry : Node × Node}
    (member : entry ∈ allEntries entries) : EntryWithin (Node.entryLevels entries) entry := by
  rcases List.mem_append.mp member with merged | own
  · exact mergedEntries_within entries merged
  · exact entryWithin_of_mem (List.mem_filter.mp own).1

/-! ### What waits -/

/-- The collections that wait have at most so many levels. -/
def Progress.Within (bound : Nat) (progress : Progress) : Prop :=
  ∀ node ∈ progress.waiting, node.levels ≤ bound

/-- An action lets only collections wait that have at most so many levels. -/
def Fill.Keeps (bound : Nat) (action : Fill α) : Prop :=
  ∀ progress answer later, action.run progress = .ok (answer, later) →
    progress.Within bound → later.Within bound

theorem keeps_pure (answer : α) : Fill.Keeps bound (pure answer) := by
  rintro progress _ _ ⟨⟩ within
  exact within

theorem keeps_throw (fault : LoadFault) : Fill.Keeps bound (throw fault : Fill α) := by
  rintro progress _ _ ⟨⟩

theorem keeps_get : Fill.Keeps bound get := by
  rintro progress _ _ ⟨⟩ within
  exact within

theorem keeps_modify {change : Progress → Progress}
    (keeps : ∀ progress, progress.Within bound → (change progress).Within bound) :
    Fill.Keeps bound (modify change) := by
  rintro progress _ _ ⟨⟩ within
  exact keeps progress within

theorem Fill.Keeps.bind {action : Fill α} {next : α → Fill β} (keeps : Fill.Keeps bound action)
    (goesOn : ∀ answer, Fill.Keeps bound (next answer)) : Fill.Keeps bound (action >>= next) := by
  intro progress answer later run within
  rw [StateT.run_bind, bind_eq_ok_iff] at run
  obtain ⟨⟨between, middle⟩, first, rest⟩ := run
  exact goesOn between middle answer later rest (keeps progress between middle first within)

theorem keeps_lift (result : Except LoadFault α) : Fill.Keeps bound (liftM result : Fill α) := by
  intro progress answer later run within
  cases result with
  | error fault => cases run
  | ok value =>
      cases run
      exact within

theorem keeps_discard {action : Fill α} (keeps : Fill.Keeps bound action) :
    Fill.Keeps bound (discard action) :=
  show Fill.Keeps bound (action >>= fun _ => pure PUnit.unit) from
    keeps.bind fun _ => keeps_pure _

theorem keeps_forM {items : List α} {action : α → Fill Unit}
    (keeps : ∀ item ∈ items, Fill.Keeps bound (action item)) :
    Fill.Keeps bound (items.forM action) := by
  induction items with
  | nil => exact keeps_pure ()
  | cons item rest ih =>
      obtain ⟨here, later⟩ := List.forall_mem_cons.mp keeps
      exact here.bind fun _ => ih later

theorem keeps_refuseNode (node : Node) (cause : ProblemCause) :
    Fill.Keeps bound (refuseNode node cause : Fill α) :=
  keeps_throw _

/-- Reading a scalar lets nothing wait. -/
theorem keeps_visitScalar (tag : Tag) (node : Node) : Fill.Keeps bound (visitScalar tag node) := by
  refine keeps_get.bind fun progress => ?_
  split
  · split
    · refine (keeps_lift _).bind fun value => ?_
      exact keeps_modify fun _ within => within
    · exact keeps_pure ()
  · exact keeps_discard (keeps_lift _)

theorem keeps_enter {node : Node} (within : node.levels ≤ bound) :
    Fill.Keeps bound (enter node) := by
  refine keeps_modify fun progress waits => ?_
  split
  · exact waits
  · exact List.forall_mem_cons.mpr ⟨within, waits⟩

theorem keeps_visit {node : Node} (within : node.levels ≤ bound) :
    Fill.Keeps bound (visit node) := by
  unfold visit
  split
  · exact keeps_enter within
  · refine keeps_get.bind fun progress => ?_
    split
    · exact keeps_visitScalar _ node
    · exact keeps_visitScalar _ node

theorem keeps_visitEntry {entry : Node × Node} (within : EntryWithin bound entry) :
    Fill.Keeps bound (visitEntry entry) := by
  refine Fill.Keeps.bind ?_ fun _ => keeps_visit within.2
  unfold visitKey
  split
  · exact keeps_refuseNode entry.1 _
  · exact keeps_visitScalar _ entry.1

mutual

/-- Carrying out merges lets nothing wait. -/
theorem keeps_mergeEntries : (entries : List (Node × Node)) →
    Fill.Keeps bound (mergeEntries entries)
  | [] => keeps_pure ()
  | (key, value) :: rest => by
      rw [mergeEntries]
      split
      · exact (keeps_mergeNode value).bind fun _ => keeps_mergeEntries rest
      split
      · refine Fill.Keeps.bind ?_ fun _ => keeps_mergeEntries rest
        exact keeps_modify fun _ within => within
      · exact keeps_mergeEntries rest

theorem keeps_mergeNode : (node : Node) → Fill.Keeps bound (mergeNode node)
  | .scalar head text => keeps_refuseNode _ _
  | .sequence _ items => by
      rw [mergeNode]
      exact keeps_mergeItems items
  | .mapping head entries => by
      rw [mergeNode]
      exact (keeps_mergeEntries entries).bind fun _ => keeps_modify fun _ within => within

theorem keeps_mergeItems : (items : List Node) → Fill.Keeps bound (mergeItems items)
  | [] => keeps_pure ()
  | .mapping head entries :: rest => by
      rw [mergeItems]
      exact (keeps_mergeNode (.mapping head entries)).bind fun _ => keeps_mergeItems rest
  | .scalar head text :: rest | .sequence head text :: rest => by
      rw [mergeItems]
      · exact (keeps_refuseNode _ _).bind fun _ => keeps_mergeItems rest
      · nofun

end

theorem keeps_visitPair {node : Node} (within : node.levels ≤ bound + 1) :
    Fill.Keeps bound (visitPair node) := by
  cases node with
  | scalar | sequence => exact keeps_refuseNode _ _
  | mapping head entries =>
      rw [Node.levels, Nat.add_le_add_iff_right] at within
      refine keeps_get.bind fun progress => ?_
      dsimp only
      split
      next key value same =>
        have pairWithin : EntryWithin bound (key, value) := by
          have member : (key, value) ∈ if isAmong (.mapping head entries) progress.merged then
              allEntries entries else entries := by
            rw [same]
            exact List.mem_singleton_self _
          split at member
          · exact (allEntries_within member).mono within
          · exact (entryWithin_of_mem member).mono within
        split
        · refine Fill.Keeps.bind ?_ fun _ => keeps_visit pairWithin.2
          unfold visitPair.visitScalarOrEnter
          split
          · exact keeps_enter pairWithin.1
          · exact keeps_visitScalar _ key
        · exact (keeps_visit pairWithin.1).bind fun _ => keeps_visit pairWithin.2
      next => exact keeps_refuseNode _ _

/-- An item of ordered pairs is a mapping, so its key and value are two levels below the list. -/
theorem keeps_visitPairs {items : List Node} (within : Node.itemLevels items ≤ bound) :
    Fill.Keeps bound (items.forM visitPair) := by
  refine keeps_forM fun item member => keeps_visitPair ?_
  have := Node.levels_le_itemLevels member
  omega

theorem keeps_fillMapping {node : Node} {entries : List (Node × Node)}
    (within : Node.entryLevels entries ≤ bound) :
    Fill.Keeps bound (fill.fillMapping node entries) := by
  refine (keeps_mergeNode node).bind fun _ => ?_
  exact keeps_forM fun entry member => keeps_visitEntry ((allEntries_within member).mono within)

/-- Filling a collection lets only collections wait that are at least one level lower. -/
theorem keeps_fill {node : Node} (within : node.levels ≤ bound + 1) :
    Fill.Keeps bound (fill node) := by
  unfold fill
  split
  next items _ =>
    have itemsWithin : Node.itemLevels items ≤ bound := Nat.le_of_succ_le_succ within
    exact keeps_forM fun item member =>
      keeps_visit (Nat.le_trans (Node.levels_le_itemLevels member) itemsWithin)
  next items _ => exact keeps_visitPairs (Nat.le_of_succ_le_succ within)
  next items _ => exact keeps_visitPairs (Nat.le_of_succ_le_succ within)
  next entries _ => exact keeps_fillMapping (Nat.le_of_succ_le_succ within)
  next entries _ => exact keeps_fillMapping (Nat.le_of_succ_le_succ within)
  next => exact keeps_refuseNode _ _

/-! ### All levels -/

/-- With a turn for every level nothing waits in the end: each turn fills what waits, and what is
met then is a level lower. -/
theorem fillLevels_waiting {progress later : Progress} (within : progress.Within bound)
    (filled : (fillLevels bound).run progress = .ok ((), later)) : later.waiting = [] := by
  induction bound generalizing progress with
  | zero =>
      cases filled
      refine List.eq_nil_iff_forall_not_mem.mpr fun node waits => ?_
      have positive := node.levels_pos
      have := within node waits
      omega
  | succ bound ih =>
      rw [fillLevels, StateT.run_bind, StateT.run_get, pure_bind] at filled
      split at filled
      next =>
        obtain ⟨⟨_, between⟩, turn, filled⟩ := bind_eq_ok_iff.mp filled
        have keeps : Fill.Keeps bound (progress.waiting.reverse.forM fill) :=
          keeps_forM fun node waits => keeps_fill (within node (List.mem_reverse.mp waits))
        exact ih (keeps _ _ _ turn nofun) filled
      next none =>
        cases filled
        simpa using none

/-- When all scalars of a document are read, no collection waits to be filled. -/
theorem readScalars_waiting {root : Node} {progress : Progress}
    (read : (readScalars root).run Progress.start = .ok ((), progress)) :
    progress.waiting = [] := by
  obtain ⟨⟨_, between⟩, visited, filled⟩ := bind_eq_ok_iff.mp read
  exact fillLevels_waiting (keeps_visit (Nat.le_refl _) _ _ _ visited nofun) filled

end EntityDiagram.Yaml
