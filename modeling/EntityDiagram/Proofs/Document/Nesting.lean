import EntityDiagram.Proofs.Document.Flattening

/-!
# Nested groups

Groups of fields are flattened to dotted paths, from which the forest is grown again.  If the keys
of all groups are different names without points, nothing of the nesting is lost on the way.  The
main statement is `buildForest_flattened`: the grown forest is the one that is read off the nested
groups directly.
-/

namespace EntityDiagram

/-! ### The nested forest -/

/-- The node of the one path of a declared field. -/
def declaredNode? (name : Text) (value : Value) : Except Fault (Option Node) := do
  let descriptor ← readDescriptor .null value
  let forest ← buildForest [(name, descriptor)]
  return forest.head?

/-- A parent of the nodes of a group; an empty group has none. -/
def groupNode? (name : Text) (nodes : Forest) : Option Node :=
  if nodes.isEmpty then none else some (Node.parent name nodes)

mutual

/-- The node of a field, declared or read off its group. -/
def fieldNode? (name : Text) : Value → Except Fault (Option Node)
  | .map entries =>
      if isDescriptor (.map entries) then declaredNode? name (.map entries)
      else groupNode? name <$> groupedForest entries
  | value => declaredNode? name value

/-- The nodes of the fields of a mapping, in the order of its keys. -/
def groupedForest : List (Scalar × Value) → Except Fault Forest
  | [] => .ok []
  | (key, value) :: rest => do
      let node? ← fieldNode? key.display value
      let forest ← groupedForest rest
      return node?.toList ++ forest

end

/-- The keys of a mapping and of the groups in it are names: texts without points, and no two of one
mapping are the same. -/
inductive NamesGroups : Mapping → Prop
  | mk {entries : Mapping}
      (names : ∀ entry ∈ entries, ∃ name, entry.1 = .text name ∧ CodePoint.char '.' ∉ name)
      (distinct : (entries.map Prod.fst).Nodup)
      (groups : ∀ entry ∈ entries, isDescriptor entry.2 = false →
        ∀ inner, entry.2 = .map inner → NamesGroups inner) :
      NamesGroups entries

/-! ### Fields of the grammar -/

/-- The paths of a field are all below its name and grow its node. -/
structure GrowsNode (name : Text) (value : Value) (paths : Paths) : Prop where
  roots : ∀ entry ∈ paths, entry.1.root = name
  grows : ∃ node?, fieldNode? name value = .ok node? ∧ buildForest paths = .ok node?.toList

theorem growsNode_declared {name : Text} (pointless : CodePoint.char '.' ∉ name) {value : Value}
    (isDescriptor : isDescriptor value = true) {descriptor : Descriptor}
    (read : readDescriptor .null value = .ok descriptor) (complete : descriptor.Complete) :
    GrowsNode name value [(name, descriptor)] where
  roots entry member := by
    rw [List.mem_singleton.mp member]
    exact root_of_pointless pointless
  grows := by
    obtain ⟨growth, grows⟩ := complete.grows.1
    have built := buildForest_singleton pointless grows
    have declared : declaredNode? name value =
        .ok (some (descriptor.change growth (Node.fresh name))) := by
      rw [declaredNode?, read, bind_ok, built]
      rfl
    refine ⟨some (descriptor.change growth (Node.fresh name)), ?_, built⟩
    cases value with
    | map entries => rw [fieldNode?, if_pos isDescriptor, declared]
    | scalar _ | list _ | pair _ _ | set _ =>
        rw [fieldNode?, declared]
        simp

theorem growsNode_group {name : Text} (pointless : CodePoint.char '.' ∉ name) {entries : Mapping}
    (notDescriptor : isDescriptor (.map entries) = false) {paths : Paths} {forest : Forest}
    (built : buildForest paths = .ok forest) (nested : groupedForest entries = .ok forest) :
    GrowsNode name (.map entries) (paths.behind (name ++ ".")) where
  roots entry member := by
    obtain ⟨inner, -, rfl⟩ := List.mem_map.mp member
    exact root_append pointless inner.1
  grows := by
    have node : fieldNode? name (.map entries) = .ok (groupNode? name forest) := by
      rw [fieldNode?, if_neg (by simp [notDescriptor]), nested]
      rfl
    refine ⟨_, node, ?_⟩
    -- A group without paths leaves no node, and one with paths has a node below it.
    by_cases empty : paths = []
    · subst empty
      rw [buildForest, growForest] at built
      cases built
      rw [Paths.behind, List.map_nil, buildForest, growForest]
      rfl
    · have notEmpty : forest.isEmpty = false := by
        cases forest with
        | nil => exact (empty (eq_nil_of_growForest built).2).elim
        | cons node nodes => rfl
      rw [buildForest_behind pointless empty, built, groupNode?, notEmpty]
      rfl

/-! ### Along the nesting -/

/-- The names that the groups of a field must have. -/
def NamesField (value : Value) : Prop :=
  isDescriptor value = false → ∀ inner, value = .map inner → NamesGroups inner

/-- However a field of the grammar is named, its flattened paths grow its node. -/
def Regrows (value : Value) : Prop :=
  Grammar.Field value → NamesField value → ∀ name, CodePoint.char '.' ∉ name →
    ∀ paths, fieldPaths name value = .ok paths → CompletePaths paths → GrowsNode name value paths

theorem NamesField.ofDeclared {value : Value} (declared : isDescriptor value = true) :
    NamesField value := by
  intro notDeclared
  rw [declared] at notDeclared
  cases notDeclared

theorem NamesField.ofGroup {entries : Mapping} (named : NamesGroups entries) :
    NamesField (.map entries) := by
  rintro - _ ⟨⟩
  exact named

theorem NamesGroups.nil : NamesGroups [] :=
  .mk (by simp) List.nodup_nil (by simp)

theorem namesGroups_cons_iff {entry : Scalar × Value} {entries : Mapping} :
    NamesGroups (entry :: entries) ↔
      (∃ name, entry.1 = .text name ∧ CodePoint.char '.' ∉ name) ∧ NamesField entry.2 ∧
        entry.1 ∉ entries.map Prod.fst ∧ NamesGroups entries := by
  constructor
  · rintro ⟨names, distinct, groups⟩
    obtain ⟨name, restNames⟩ := List.forall_mem_cons.mp names
    obtain ⟨field, restGroups⟩ := List.forall_mem_cons.mp groups
    obtain ⟨different, restDistinct⟩ := List.nodup_cons.mp distinct
    exact ⟨name, field, different, .mk restNames restDistinct restGroups⟩
  · rintro ⟨name, field, different, ⟨restNames, restDistinct, restGroups⟩⟩
    exact .mk (List.forall_mem_cons.mpr ⟨name, restNames⟩)
      (List.nodup_cons.mpr ⟨different, restDistinct⟩)
      (List.forall_mem_cons.mpr ⟨field, restGroups⟩)

/-- Fields that regrow one by one do so side by side, since no two of them have a root in common. -/
theorem groupedForest_of_regrows {entries : Mapping} (regrow : ∀ entry ∈ entries, Regrows entry.2)
    (fields : ∀ entry ∈ entries, Grammar.Field entry.2) (named : NamesGroups entries)
    {paths : Paths} (flattened : flattenEntries "" entries = .ok paths)
    (complete : CompletePaths paths) :
    (∀ entry ∈ paths, Scalar.text entry.1.root ∈ entries.map Prod.fst) ∧
      ∃ forest, groupedForest entries = .ok forest ∧ buildForest paths = .ok forest := by
  induction entries generalizing paths with
  | nil =>
      rw [flattenEntries] at flattened
      cases flattened
      refine ⟨by simp, [], ?_, ?_⟩
      · rw [groupedForest]
      · rw [buildForest, growForest]
  | cons entry entries ih =>
      obtain ⟨⟨name, isName, pointless⟩, namesField, different, restNamed⟩ :=
        namesGroups_cons_iff.mp named
      obtain ⟨entryRegrows, restRegrow⟩ := List.forall_mem_cons.mp regrow
      obtain ⟨field, restFields⟩ := List.forall_mem_cons.mp fields
      have written : entry.1.written = .ok name := by
        rw [isName]
        rfl
      rw [flattenEntries_cons, written, bind_ok] at flattened
      obtain ⟨here, readHere, flattened⟩ := bind_eq_ok_iff.mp flattened
      obtain ⟨more, readMore, joined⟩ := bind_eq_ok_iff.mp flattened
      cases joined
      obtain ⟨hereComplete, moreComplete⟩ := List.forall_mem_append.mp complete
      obtain ⟨hereRoots, node?, node, hereBuilt⟩ :=
        entryRegrows field namesField name pointless here readHere hereComplete
      obtain ⟨moreRoots, forest, nested, moreBuilt⟩ :=
        ih restRegrow restFields restNamed readMore moreComplete
      -- A root in common would be the key of this entry and of a later one.
      have apart : ∀ first ∈ here, ∀ other ∈ more, first.1.root ≠ other.1.root := by
        intro first inHere other inMore same
        apply different
        rw [isName, ← hereRoots first inHere, same]
        exact moreRoots other inMore
      refine ⟨?_, node?.toList ++ forest, ?_, ?_⟩
      · intro path member
        rcases List.mem_append.mp member with inHere | inMore
        · rw [hereRoots path inHere, ← isName]
          exact List.mem_cons_self
        · exact List.mem_cons_of_mem _ (moreRoots path inMore)
      · have key : entry.1.display = name := congrArg Scalar.display isName
        rw [groupedForest, key, node, bind_ok, nested]
        rfl
      · rw [buildForest_append apart, hereBuilt, bind_ok, moreBuilt]
        rfl

/-- The induction goes along the entries of mappings: a group regrows if its fields do. -/
theorem regrows (value : Value) : Regrows value := by
  induction value using Value.induction_on_entries with
  | map entries regrow =>
      intro field namesField name pointless paths read complete
      cases declared : isDescriptor (.map entries) with
      | true =>
          obtain ⟨descriptor, readHere, rfl⟩ := fieldPaths_of_isDescriptor declared read
          exact growsNode_declared pointless declared readHere (complete _ List.mem_cons_self)
      | false =>
          have noForm : ¬ Grammar.HasForm entries := by
            rw [← isDescriptor_map_iff, declared]
            exact Bool.false_ne_true
          have fields : ∀ entry ∈ entries, Grammar.Field entry.2 := by
            rcases Grammar.field_map_iff.mp field with form | group
            · exact (noForm (Grammar.longForm_map_iff.mp form).1).elim
            · exact (Grammar.group_map_iff.mp group).2
          rw [fieldPaths_of_group declared, flattenEntries_behind] at read
          obtain ⟨inner, flattened, rfl⟩ := map_eq_ok_iff.mp read
          have innerComplete : CompletePaths inner :=
            fun entry member => complete (name ++ "." ++ entry.1, entry.2)
              (List.mem_map.mpr ⟨entry, member, rfl⟩)
          obtain ⟨-, forest, nested, built⟩ := groupedForest_of_regrows regrow fields
            (namesField declared entries rfl) flattened innerComplete
          exact growsNode_group pointless declared built nested
  | other value notMap =>
      intro field namesField name pointless paths read complete
      obtain ⟨kind, -, rfl⟩ := (Grammar.field_iff_kind notMap).mp field
      obtain ⟨descriptor, readHere, rfl⟩ := fieldPaths_of_isDescriptor rfl read
      exact growsNode_declared pointless rfl readHere (complete _ List.mem_cons_self)

/-- The paths of accepted fields grow the forest that is read off the nesting of the groups, when
the keys of the fields and of all groups are names. -/
theorem buildForest_flattened {fields : Mapping} (accepted : AcceptedFields fields)
    (named : NamesGroups fields) :
    ∃ paths forest, flattenFields "" (.map fields) = .ok paths ∧ buildForest paths = .ok forest ∧
      groupedForest fields = .ok forest := by
  have keys : ∀ entry ∈ fields, entry.1.isWritable = true := by
    cases named with
    | mk names _ _ =>
        intro entry member
        obtain ⟨name, isName, -⟩ := names entry member
        rw [isName]
        rfl
  obtain ⟨paths, flattened⟩ := accepted.yields.answers keys
  have complete := (accepted.yields.good paths flattened).complete
  have entriesFlattened : flattenEntries "" fields = .ok paths := by
    rw [← flattened, flattenFields]
  obtain ⟨-, forest, nested, built⟩ := groupedForest_of_regrows (fun entry _ => regrows entry.2)
    accepted.grammar named entriesFlattened complete
  exact ⟨paths, forest, flattened, built, nested⟩

/-- Groups with an empty name, with nothing in them, and beside a schema with a dotted key. -/
def pageFields : Mapping :=
  [(.text "", .map
      [(.text "", .text "String"), (.text "none", .map [(.text "deep", .map [])])]),
    (.text "none", .map [(.text "none", .map [])]),
    (.text "meta", .map
      [(.text "tags", .map [(.text "schema", .map [(.text "a.b", .text "Date")])])])]

theorem pageFields_nested :
    AcceptedFields pageFields ∧ NamesGroups pageFields ∧
      ∃ paths forest, flattenFields "" (.map pageFields) = .ok paths ∧
        buildForest paths = .ok forest ∧ groupedForest pageFields = .ok forest := by
  have accepted : AcceptedFields pageFields := .ofOnlyModel "Page" rfl
  have empty (name : Text) (pointless : CodePoint.char '.' ∉ name) :
      NamesGroups [(.text name, .map [])] :=
    namesGroups_cons_iff.mpr ⟨⟨name, rfl, pointless⟩, .ofGroup .nil, by simp, .nil⟩
  have unnamed : NamesGroups
      [(.text "", .text "String"), (.text "none", .map [(.text "deep", .map [])])] :=
    namesGroups_cons_iff.mpr ⟨⟨"", rfl, by decide⟩, .ofDeclared rfl, by decide,
      namesGroups_cons_iff.mpr ⟨⟨"none", rfl, by decide⟩, .ofGroup (empty "deep" (by decide)),
        by simp, .nil⟩⟩
  have tagged (value : Value) (declared : isDescriptor value = true) :
      NamesGroups [(.text "tags", value)] :=
    namesGroups_cons_iff.mpr ⟨⟨"tags", rfl, by decide⟩, .ofDeclared declared, by simp, .nil⟩
  have named : NamesGroups pageFields :=
    namesGroups_cons_iff.mpr ⟨⟨"", rfl, by decide⟩, .ofGroup unnamed, by decide,
      namesGroups_cons_iff.mpr ⟨⟨"none", rfl, by decide⟩, .ofGroup (empty "none" (by decide)),
        by decide,
        namesGroups_cons_iff.mpr ⟨⟨"meta", rfl, by decide⟩, .ofGroup (tagged _ rfl), by simp,
          .nil⟩⟩⟩
  exact ⟨accepted, named, buildForest_flattened accepted named⟩

end EntityDiagram
