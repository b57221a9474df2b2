import EntityDiagram.Proofs.Structure.WellNamed

/-!
# Growing side by side

The first segment of a path, its root, says in which of the trees of a forest the path is inserted.
Paths of other roots do not meet, so the trees of a list of paths can be grown apart from each other
and put side by side; and paths with one root in front grow the children of a parent of this name.
-/

namespace EntityDiagram

open Text (segments)

/-! ### Segments of joined paths -/

theorem cutAtPoints_append {name : Text} (pointless : CodePoint.char '.' ∉ name)
    (current rest : Text) :
    Text.cutAtPoints current (name ++ rest) = Text.cutAtPoints (name.reverse ++ current) rest := by
  induction name generalizing current with
  | nil => rfl
  | cons c name ih =>
      rw [List.mem_cons, not_or] at pointless
      rw [List.cons_append, Text.cutAtPoints, if_neg (Ne.symm pointless.1), ih pointless.2,
        List.reverse_cons, List.append_assoc, List.singleton_append]

/-- A path without points is its own segment. -/
theorem segments_of_pointless {name : Text} (pointless : CodePoint.char '.' ∉ name) :
    segments name = [name] := by
  have cut := cutAtPoints_append pointless [] []
  rw [List.append_nil, List.append_nil, Text.cutAtPoints, List.reverse_reverse] at cut
  exact cut

theorem segments_append {name : Text} (pointless : CodePoint.char '.' ∉ name) (path : Text) :
    segments (name ++ "." ++ path) = name :: segments path := by
  have cut := cutAtPoints_append pointless [] ("." ++ path)
  rw [← List.append_assoc, List.append_nil] at cut
  rw [segments, cut]
  exact congrArg (· :: segments path) (List.reverse_reverse name)

/-- The first segment of a path. -/
def Text.root (path : Text) : Text :=
  (segments path).headD []

theorem segments_eq_root_cons (path : Text) :
    ∃ rest, segments path = path.root :: rest := by
  obtain ⟨first, rest, same⟩ := List.exists_cons_of_ne_nil (segments_ne_nil path)
  exact ⟨rest, by rw [Text.root, same, List.headD_cons]⟩

theorem root_of_pointless {name : Text} (pointless : CodePoint.char '.' ∉ name) :
    name.root = name := by
  rw [Text.root, segments_of_pointless pointless, List.headD_cons]

theorem root_append {name : Text} (pointless : CodePoint.char '.' ∉ name) (path : Text) :
    Text.root (name ++ "." ++ path) = name := by
  rw [Text.root, segments_append pointless, List.headD_cons]

/-! ### Nodes in front -/

/-- A name that no node in front bears is looked for behind them. -/
theorem Forest.update_append {front : Forest} {name : Text}
    (absent : name ∉ front.map Node.name) (change : Node → Node) (forest : Forest) :
    Forest.update name change (front ++ forest) = front ++ forest.update name change := by
  induction front with
  | nil => rfl
  | cons node front ih =>
      rw [List.map_cons, List.mem_cons, not_or] at absent
      rw [List.cons_append, Forest.update, if_neg (Ne.symm absent.1), ih absent.2,
        List.cons_append]

/-- Nodes that no path has as its root stay in front as they are. -/
theorem growForest_append_of_absent {front : Forest} {paths : Paths}
    (absent : ∀ entry ∈ paths, entry.1.root ∉ front.map Node.name) (forest : Forest) :
    growForest (front ++ forest) paths = (front ++ ·) <$> growForest forest paths := by
  induction paths generalizing forest with
  | nil =>
      rw [growForest, growForest]
      rfl
  | cons entry paths ih =>
      obtain ⟨entryAbsent, pathsAbsent⟩ := List.forall_mem_cons.mp absent
      obtain ⟨rest, cut⟩ := segments_eq_root_cons entry.1
      rw [growForest, growForest]
      split
      · next growth grows =>
          rw [cut, Forest.updatePath_cons, Forest.updatePath_cons,
            Forest.update_append entryAbsent]
          exact ih pathsAbsent _
      · rfl

/-! ### Names at the top -/

/-- What is left behind a new name is left behind the others, apart from that name. -/
theorem removeAll_concat (roots names : List Text) (name : Text) :
    roots.removeAll (names ++ [name]) =
      (roots.removeAll names).filter fun other => !other == name := by
  simp only [List.removeAll, List.filter_filter]
  refine List.filter_congr fun other _ => ?_
  rw [Bool.eq_iff_iff]
  simp [and_comm]

/-- Growing keeps the names of a level in front, and adds the roots that are new in the order of
their first occurrence.  The induction is on the paths, each of which adds one name at most. -/
theorem growForest_names {paths : Paths} {forest grown : Forest}
    (grows : growForest forest paths = .ok grown) :
    grown.map Node.name = forest.map Node.name ++
      ((paths.map fun entry => entry.1.root).removeAll (forest.map Node.name)).eraseDups := by
  induction paths generalizing forest with
  | nil =>
      rw [growForest] at grows
      cases grows
      simp [List.removeAll]
  | cons entry paths ih =>
      obtain ⟨rest, cut⟩ := segments_eq_root_cons entry.1
      rw [growForest] at grows
      split at grows
      · next growth entryGrows =>
          rw [cut, Forest.updatePath_cons] at grows
          have names := Forest.map_name_update
            (Forest.changeBelow_name (entry.2.change_name growth) rest) entry.1.root forest
          rw [ih grows, names, List.map_cons, List.cons_removeAll]
          by_cases known : entry.1.root ∈ forest.map Node.name
          · simp [known]
          · rw [if_neg known, if_pos (by simpa using known), List.eraseDups_cons,
              removeAll_concat, List.append_assoc, List.singleton_append]
      · cases grows

/-- The nodes of a forest bear the roots of its paths. -/
theorem root_of_mem_growForest {paths : Paths} {forest grown : Forest}
    (grows : growForest forest paths = .ok grown) {node : Node} (member : node ∈ grown) :
    node.name ∈ forest.map Node.name ∨ ∃ entry ∈ paths, entry.1.root = node.name := by
  have named : node.name ∈ grown.map Node.name := List.mem_map_of_mem member
  rw [growForest_names grows, List.mem_append, List.mem_eraseDups] at named
  rcases named with before | new
  · exact .inl before
  · exact .inr (List.mem_map.mp (List.mem_filter.mp new).1)

/-- Only no paths grow nothing. -/
theorem eq_nil_of_growForest {paths : Paths} {forest : Forest}
    (grows : growForest forest paths = .ok []) : forest = [] ∧ paths = [] := by
  have names := growForest_names grows
  rw [List.map_nil, eq_comm, List.append_eq_nil_iff, List.map_eq_nil_iff] at names
  obtain ⟨rfl, noRoots⟩ := names
  cases paths with
  | nil => exact ⟨rfl, rfl⟩
  | cons entry paths => simp [List.removeAll, List.eraseDups_cons] at noRoots

/-! ### Paths of other roots -/

/-- Paths that share no root grow side by side. -/
theorem buildForest_append {before later : Paths}
    (apart : ∀ entry ∈ before, ∀ other ∈ later, entry.1.root ≠ other.1.root) :
    buildForest (before ++ later) =
      buildForest before >>= fun front => (front ++ ·) <$> buildForest later := by
  unfold buildForest
  rw [growForest_append]
  cases grows : growForest [] before with
  | error fault => rfl
  | ok front =>
      have absent : ∀ other ∈ later, other.1.root ∉ front.map Node.name := by
        intro other member known
        obtain ⟨node, inFront, same⟩ := List.mem_map.mp known
        rcases root_of_mem_growForest grows inFront with impossible | ⟨entry, inBefore, root⟩
        · cases impossible
        · exact apart entry inBefore other member (root.trans same)
      rw [bind_ok, bind_ok, ← growForest_append_of_absent absent, List.append_nil]

/-- A path without points grows its node and nothing else. -/
theorem buildForest_singleton {name : Text} (pointless : CodePoint.char '.' ∉ name)
    {descriptor : Descriptor} {growth : Growth} (grows : descriptor.growth = (growth, none)) :
    buildForest [(name, descriptor)] = .ok [descriptor.change growth (Node.fresh name)] := by
  rw [buildForest, growForest_cons grows, segments_of_pointless pointless]
  rfl

/-! ### Paths of one root -/

/-- A parent without a declared type. -/
def Node.parent (name : Text) (children : Forest) : Node :=
  { Node.fresh name with children := some children }

/-- The paths with a text in front of them. -/
def Paths.behind (front : Text) (paths : Paths) : Paths :=
  paths.map fun entry => (front ++ entry.1, entry.2)

/-- A parent without children is a fresh node. -/
theorem Forest.update_parent_nil (name : Text) (change : Node → Node) :
    Forest.update name change [Node.parent name []] = Forest.update name change [] := by
  have named : (Node.parent name []).name = name := rfl
  rw [Forest.update, Forest.update, if_pos named]
  rfl

theorem Forest.updatePath_parent {path : List Text} (nonempty : path ≠ []) (change : Node → Node)
    (name : Text) (forest : Forest) :
    Forest.updatePath change (name :: path) [Node.parent name forest] =
      [Node.parent name (forest.updatePath change path)] := by
  obtain ⟨next, rest, rfl⟩ := List.exists_cons_of_ne_nil nonempty
  have named : (Node.parent name forest).name = name := rfl
  rw [Forest.updatePath_cons, Forest.update, if_pos named]
  rfl

/-- Paths behind the name of a parent grow among its children. -/
theorem growForest_behind {name : Text} (pointless : CodePoint.char '.' ∉ name) (paths : Paths)
    (forest : Forest) :
    growForest [Node.parent name forest] (paths.behind (name ++ ".")) =
      (fun children => [Node.parent name children]) <$> growForest forest paths := by
  induction paths generalizing forest with
  | nil =>
      rw [growForest]
      rfl
  | cons entry paths ih =>
      rw [Paths.behind, List.map_cons, growForest, growForest]
      split
      · rw [segments_append pointless, Forest.updatePath_parent (segments_ne_nil entry.1)]
        exact ih _
      · rfl

/-- Paths behind one name grow a parent of what they grow without it.  The first of them creates
the parent, as if it had been there without children. -/
theorem buildForest_behind {name : Text} (pointless : CodePoint.char '.' ∉ name) {paths : Paths}
    (nonempty : paths ≠ []) :
    buildForest (paths.behind (name ++ ".")) =
      (fun children => [Node.parent name children]) <$> buildForest paths := by
  obtain ⟨entry, rest, rfl⟩ := List.exists_cons_of_ne_nil nonempty
  have created : buildForest (Paths.behind (name ++ ".") (entry :: rest)) =
      growForest [Node.parent name []] (Paths.behind (name ++ ".") (entry :: rest)) := by
    rw [buildForest, Paths.behind, List.map_cons, growForest, growForest]
    split
    · rw [segments_append pointless, Forest.updatePath_cons, Forest.updatePath_cons,
        Forest.update_parent_nil]
    · rfl
  rw [created]
  exact growForest_behind pointless (entry :: rest) []

end EntityDiagram
