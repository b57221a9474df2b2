import EntityDiagram.Proofs.Outcome
import EntityDiagram.Proofs.Structure.Address
import EntityDiagram.Proofs.Structure.Growth

/-!
# What paths declare

The forest of a list of paths is grown by changing it in place, path after path.  This file gives
its meaning without that history.  At an address, only the last path counts that replaces the
children of a node above it, and the paths after that one: a node is there if one of these leads
to it or through it, or if the replacement had one there.  The main statement is
`buildForest_settles`.
-/

namespace EntityDiagram

open Text (segments)

theorem segments_ne_nil (path : Text) : segments path ≠ [] := by
  have cut_ne_nil : ∀ path current : Text, Text.cutAtPoints current path ≠ [] := by
    intro path
    induction path with
    | nil => simp [Text.cutAtPoints]
    | cons c path ih =>
        intro current
        rw [Text.cutAtPoints]
        split
        · simp
        · exact ih (c :: current)
  exact cut_ne_nil path []

/-- The type that a descriptor gives to its node. -/
def Descriptor.type : Descriptor → Value × Options
  | .missing => parentType
  | .typed kind options _ _ => (kind, options.settle)

/-! ### One path -/

theorem Descriptor.change_name (descriptor : Descriptor) (growth : Growth) (node : Node) :
    (descriptor.change growth node).name = node.name := by
  cases descriptor <;> rfl

theorem Descriptor.Complete.change_type {descriptor : Descriptor} (complete : descriptor.Complete)
    (growth : Growth) (node : Node) :
    (descriptor.change growth node).type = descriptor.type := by
  cases complete
  rfl

theorem Descriptor.Complete.change_childList {descriptor : Descriptor}
    (complete : descriptor.Complete) (growth : Growth) (node : Node) :
    (descriptor.change growth node).childList =
      match growth with
      | .replace children => children
      | _ => node.childList := by
  cases complete
  cases growth with
  | keep => rfl
  | replace children => rfl
  | prune =>
      obtain ⟨name, kind, options, children⟩ := node
      match children with
      | none | some [] | some (_ :: _) => rfl

/-- Below the node that an insertion changes, a forest has what it had there before. -/
theorem Forest.typeAt?_target {path rest : List Text} (pathNonempty : path ≠ [])
    (restNonempty : rest ≠ []) (forest : Forest) :
    (forest.target path).childList.typeAt? rest = forest.typeAt? (path ++ rest) := by
  unfold typeAt? target
  rw [at?_append pathNonempty]
  match rest with
  | [] => exact (restNonempty rfl).elim
  | next :: rest =>
      cases forest.at? path with
      | none => simp [Node.fresh, Node.childList]
      | some node => rfl

/-- A path decides on what stands at an address when it replaces the children of a node above. -/
def Governs (address : List Text) (entry : Text × Descriptor) : Prop :=
  entry.2.replaces = true ∧ segments entry.1 <+: address ∧ segments entry.1 ≠ address

/-- What becomes of the type at an address when a path is inserted that does not decide on it. -/
def settledType (address : List Text) (type : Option (Value × Options))
    (entry : Text × Descriptor) : Option (Value × Options) :=
  if segments entry.1 = address then some entry.2.type
  else if address <+: segments entry.1 then some (type.getD parentType)
  else type

section Insert

variable {address : List Text} {entry : Text × Descriptor} {growth : Growth}

/-- After an insertion that decides on an address, the replacement is found there. -/
theorem typeAt?_insert_of_governs (governs : Governs address entry) (complete : entry.2.Complete)
    (grows : entry.2.growth = (growth, none)) (forest : Forest) :
    ∃ expansion, entry.2.expansion = .ok expansion ∧
      (forest.updatePath (entry.2.change growth) (segments entry.1)).typeAt? address =
        expansion.typeAt? (address.drop (segments entry.1).length) := by
  obtain ⟨replaces, above, different⟩ := governs
  have nonempty : address ≠ [] := by
    rintro rfl
    exact segments_ne_nil entry.1 (List.prefix_nil.mp above)
  have notBelow : ¬ address <+: segments entry.1 := fun below =>
    different (above.eq_of_length (Nat.le_antisymm above.length_le below.length_le))
  rcases complete.growth_cases with ⟨-, expansion, expanded, grown⟩ | ⟨keeps, -⟩
  · refine ⟨expansion, expanded, ?_⟩
    obtain rfl : growth = .replace expansion := by
      simpa [grows] using grown
    rw [Forest.typeAt?_updatePath (entry.2.change_name _) (segments_ne_nil entry.1) nonempty,
      if_neg different, if_neg notBelow, if_pos above, complete.change_childList]
  · rw [replaces] at keeps
    cases keeps

/-- Any other insertion settles the type at an address by the type that was there before. -/
theorem typeAt?_insert_of_not_governs (notGoverns : ¬ Governs address entry)
    (nonempty : address ≠ []) (complete : entry.2.Complete)
    (grows : entry.2.growth = (growth, none)) (forest : Forest) :
    (forest.updatePath (entry.2.change growth) (segments entry.1)).typeAt? address =
      settledType address (forest.typeAt? address) entry := by
  rw [Forest.typeAt?_updatePath (entry.2.change_name growth) (segments_ne_nil entry.1) nonempty,
    complete.change_type, settledType]
  by_cases same : segments entry.1 = address
  · rw [if_pos same, if_pos same]
  · rw [if_neg same, if_neg same]
    split
    · rfl
    · split
      · next above =>
          rcases complete.growth_cases with ⟨replaces, -⟩ | ⟨-, kept⟩
          · exact (notGoverns ⟨replaces, above, same⟩).elim
          · obtain ⟨rest, rfl⟩ := above
            have restNonempty : rest ≠ [] := by
              rintro rfl
              simp at same
            have keepsChildren :
                (entry.2.change growth (forest.target (segments entry.1))).childList =
                  (forest.target (segments entry.1)).childList := by
              rw [complete.change_childList]
              rw [grows] at kept
              rcases kept with kept | kept
              · cases kept
                rfl
              · cases kept
                rfl
            rw [keepsChildren, List.drop_left,
              Forest.typeAt?_target (segments_ne_nil entry.1) restNonempty]
      · rfl

end Insert

/-! ### All paths -/

/-- What stands at an address after paths that do not decide on it, when `inherited` stood there
before them. -/
structure Settles (later : Paths) (address : List Text)
    (inherited found : Option (Value × Options)) : Prop where
  /-- Something is there if a path leads to the address or through it, or if it was there. -/
  present : found.isSome = true ↔
    (∃ entry ∈ later, address <+: segments entry.1) ∨ inherited.isSome = true
  /-- The last path that leads to the address gives the type. -/
  declared : ∀ earlier entry rest, later = earlier ++ entry :: rest →
    segments entry.1 = address → (∀ other ∈ rest, segments other.1 ≠ address) →
      found = some entry.2.type
  /-- Without such a path the type is what it was. -/
  kept : (∀ entry ∈ later, segments entry.1 ≠ address) →
    ∀ type, inherited = some type → found = some type
  /-- A node that was made for the paths through it is a parent. -/
  parent : (∀ entry ∈ later, segments entry.1 ≠ address) → inherited = none →
    ∀ type, found = some type → type = parentType

theorem isSome_settledType {address : List Text} {type : Option (Value × Options)}
    {entry : Text × Descriptor} :
    (settledType address type entry).isSome = true ↔
      address <+: segments entry.1 ∨ type.isSome = true := by
  unfold settledType
  split
  · next same => simp [same]
  · split
    · next below => simp [below]
    · next notBelow => simp [notBelow]

/-- Paths that do not lead to an address leave the type that is there. -/
theorem foldl_settledType_some {address : List Text} {later : Paths}
    (elsewhere : ∀ entry ∈ later, segments entry.1 ≠ address) (type : Value × Options) :
    later.foldl (settledType address) (some type) = some type := by
  induction later with
  | nil => rfl
  | cons entry later ih =>
      obtain ⟨entryElsewhere, laterElsewhere⟩ := List.forall_mem_cons.mp elsewhere
      have kept : settledType address (some type) entry = some type := by
        simp [settledType, entryElsewhere]
      rw [List.foldl_cons, kept]
      exact ih laterElsewhere

theorem foldl_settledType_none {address : List Text} {later : Paths}
    (elsewhere : ∀ entry ∈ later, segments entry.1 ≠ address) :
    later.foldl (settledType address) none = none ∨
      later.foldl (settledType address) none = some parentType := by
  induction later with
  | nil => exact .inl rfl
  | cons entry later ih =>
      obtain ⟨entryElsewhere, laterElsewhere⟩ := List.forall_mem_cons.mp elsewhere
      rw [List.foldl_cons, settledType, if_neg entryElsewhere]
      split
      · exact .inr (foldl_settledType_some laterElsewhere parentType)
      · exact ih laterElsewhere

/-- Settling the type path by path gives the declared one. -/
theorem settles_foldl (later : Paths) (address : List Text)
    (inherited : Option (Value × Options)) :
    Settles later address inherited (later.foldl (settledType address) inherited) where
  present := by
    induction later generalizing inherited with
    | nil => simp
    | cons entry later ih =>
        rw [List.foldl_cons, ih, isSome_settledType]
        simp only [List.mem_cons, exists_eq_or_imp]
        constructor
        · rintro (through | through | before)
          · exact .inl (.inr through)
          · exact .inl (.inl through)
          · exact .inr before
        · rintro ((through | through) | before)
          · exact .inr (.inl through)
          · exact .inl through
          · exact .inr (.inr before)
  declared earlier entry rest split leads elsewhere := by
    have given : settledType address (earlier.foldl (settledType address) inherited) entry =
        some entry.2.type := by
      rw [settledType, if_pos leads]
    rw [split, List.foldl_append, List.foldl_cons, given]
    exact foldl_settledType_some elsewhere entry.2.type
  kept elsewhere type before := by
    rw [before]
    exact foldl_settledType_some elsewhere type
  parent elsewhere before type found := by
    rw [before] at found
    rcases foldl_settledType_none elsewhere with absent | parent
    · rw [absent] at found
      cases found
    · rw [parent] at found
      exact (Option.some.inj found).symm

/-- Paths grow one after another. -/
theorem growForest_cons {entry : Text × Descriptor} {growth : Growth}
    (grows : entry.2.growth = (growth, none)) (forest : Forest) (paths : Paths) :
    growForest forest (entry :: paths) =
      growForest (forest.updatePath (entry.2.change growth) (segments entry.1)) paths := by
  rw [growForest, grows]

/-- A run of paths that do not decide on an address settles the type there. -/
theorem typeAt?_growForest {later : Paths} (complete : CompletePaths later)
    {address : List Text} (nonempty : address ≠ [])
    (undecided : ∀ entry ∈ later, ¬ Governs address entry) {forest grown : Forest}
    (grows : growForest forest later = .ok grown) :
    grown.typeAt? address = later.foldl (settledType address) (forest.typeAt? address) := by
  induction later generalizing forest with
  | nil =>
      rw [growForest] at grows
      cases grows
      rfl
  | cons entry later ih =>
      obtain ⟨entryComplete, laterComplete⟩ := List.forall_mem_cons.mp complete
      obtain ⟨entryUndecided, laterUndecided⟩ := List.forall_mem_cons.mp undecided
      obtain ⟨growth, entryGrows⟩ := entryComplete.grows.1
      rw [growForest_cons entryGrows] at grows
      rw [List.foldl_cons,
        ← typeAt?_insert_of_not_governs entryUndecided nonempty entryComplete entryGrows]
      exact ih laterComplete laterUndecided grows

/-- Paths grow on what the paths before them have left. -/
theorem growForest_append (forest : Forest) (before later : Paths) :
    growForest forest (before ++ later) =
      growForest forest before >>= fun middle => growForest middle later := by
  induction before generalizing forest with
  | nil =>
      rw [growForest]
      rfl
  | cons entry before ih =>
      rw [List.cons_append, growForest, growForest]
      split
      · exact ih _
      · rfl

/-- Paths that do not decide on an address settle the type there from what the paths before them
have left. -/
theorem typeAt?_buildForest_append {before later : Paths}
    (complete : CompletePaths (before ++ later)) {address : List Text} (nonempty : address ≠ [])
    (undecided : ∀ entry ∈ later, ¬ Governs address entry) {forest : Forest}
    (built : buildForest (before ++ later) = .ok forest) :
    ∃ middle : Forest, growForest [] before = .ok middle ∧
      forest.typeAt? address = later.foldl (settledType address) (middle.typeAt? address) := by
  obtain ⟨-, laterComplete⟩ := List.forall_mem_append.mp complete
  rw [buildForest, growForest_append, bind_eq_ok_iff] at built
  obtain ⟨middle, beforeGrows, laterGrows⟩ := built
  exact ⟨middle, beforeGrows, typeAt?_growForest laterComplete nonempty undecided laterGrows⟩

/-- The last path that decides on an address leaves its replacement there, which the paths after it
settle. -/
theorem typeAt?_buildForest_of_governs {before later : Paths} {entry : Text × Descriptor}
    (complete : CompletePaths (before ++ entry :: later)) {address : List Text}
    (governs : Governs address entry) (undecided : ∀ other ∈ later, ¬ Governs address other)
    {forest : Forest} (built : buildForest (before ++ entry :: later) = .ok forest) :
    ∃ expansion, entry.2.expansion = .ok expansion ∧
      forest.typeAt? address = later.foldl (settledType address)
        (expansion.typeAt? (address.drop (segments entry.1).length)) := by
  have nonempty : address ≠ [] := by
    rintro rfl
    exact segments_ne_nil entry.1 (List.prefix_nil.mp governs.2.1)
  obtain ⟨-, restComplete⟩ := List.forall_mem_append.mp complete
  obtain ⟨entryComplete, laterComplete⟩ := List.forall_mem_cons.mp restComplete
  rw [buildForest, growForest_append, bind_eq_ok_iff] at built
  obtain ⟨middle, -, laterGrows⟩ := built
  obtain ⟨growth, entryGrows⟩ := entryComplete.grows.1
  rw [growForest_cons entryGrows] at laterGrows
  obtain ⟨expansion, expanded, replaced⟩ :=
    typeAt?_insert_of_governs governs entryComplete entryGrows middle
  refine ⟨expansion, expanded, ?_⟩
  rw [typeAt?_growForest laterComplete nonempty undecided laterGrows, replaced]

/-- The declared meaning of paths without missing descriptors.  If a path decides on an address
and no later one does, what stands there is settled by the later paths from what its replacement
has at the remaining segments; if none decides on it, it is settled by all paths from nothing. -/
theorem buildForest_settles {paths : Paths} (complete : CompletePaths paths)
    {address : List Text} (nonempty : address ≠ []) :
    ∃ forest, buildForest paths = .ok forest ∧
      (∀ before entry later, paths = before ++ entry :: later → Governs address entry →
        (∀ other ∈ later, ¬ Governs address other) →
          ∃ expansion, entry.2.expansion = .ok expansion ∧
            Settles later address
              (expansion.typeAt? (address.drop (segments entry.1).length))
              (forest.typeAt? address)) ∧
      ((∀ entry ∈ paths, ¬ Governs address entry) →
        Settles paths address none (forest.typeAt? address)) := by
  obtain ⟨forest, built⟩ := complete.buildForest
  refine ⟨forest, built, ?_, ?_⟩
  · rintro before entry later rfl governs undecided
    obtain ⟨expansion, expanded, found⟩ :=
      typeAt?_buildForest_of_governs complete governs undecided built
    refine ⟨expansion, expanded, ?_⟩
    rw [found]
    exact settles_foldl later address _
  · intro undecided
    rw [typeAt?_growForest complete nonempty undecided built, Forest.typeAt?_empty]
    exact settles_foldl paths address none

/-- The second path decides on what stands below `a`, and the third one leads through it. -/
def overlappingPaths : Paths :=
  [("a.b", .ofKind (.text "String")),
    ("a", .typed (.text embeddedKind) Options.none (some [("c", .ofKind (.text "Date"))]) .missing),
    ("a.c.d", .ofKind (.text "Number"))]

theorem overlappingPaths_settle :
    CompletePaths overlappingPaths ∧ (["a", "c"] : List Text) ≠ [] ∧
      ∃ forest, buildForest overlappingPaths = .ok forest ∧
        forest.typeAt? ["a", "c"] = some (.text "Date", Options.none) := by
  have complete : CompletePaths overlappingPaths := by
    simp only [CompletePaths, overlappingPaths, List.forall_mem_cons]
    refine ⟨.ofKind _, .typed (fun _ _ _ _ => trivial) ?_ fun present => (present rfl).elim,
      .ofKind _, by simp⟩
    rintro paths ⟨⟩ entry member
    obtain rfl := List.mem_singleton.mp member
    exact .ofKind _
  have nonempty : (["a", "c"] : List Text) ≠ [] := List.cons_ne_nil _ _
  obtain ⟨forest, built, decided, -⟩ := buildForest_settles complete nonempty
  refine ⟨complete, nonempty, forest, built, ?_⟩
  obtain ⟨expansion, expanded, settles⟩ := decided [_] _ [_] rfl ⟨rfl, by decide, by decide⟩
    (by simp [Governs, Descriptor.ofKind, Descriptor.replaces])
  obtain rfl : expansion = _ := (Except.ok.inj expanded).symm
  exact settles.kept (by decide) _ rfl

end EntityDiagram
