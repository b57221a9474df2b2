import EntityDiagram.Proofs.Diagram.Walk

/-!
# Tables of containers

A position in a structure is the index of a node at each level on the way to it.  In the order of
positions a node comes before those below it, and these come before the nodes behind it.  A walk
makes its visits in this order, one at each position below no scalar.  The main statement is
`emit_containers`: what is emitted for a structure are the texts of its own table and of one table
for each container, in the order of their positions.
-/

namespace EntityDiagram

/-! ### Positions -/

/-- What stands at a position, under no node of a scalar kind. -/
inductive StandsAt : List Text → List Node → List Nat → Visit → Prop
  | here {above : List Text} {nodes : List Node} {index : Nat} {node : Node}
      (found : nodes[index]? = some node) : StandsAt above nodes [index] ⟨above, node⟩
  | under {above : List Text} {nodes : List Node} {index : Nat} {parent : Node}
      {position : List Nat} {visit : Visit} (found : nodes[index]? = some parent)
      (container : isScalarKind parent.kind = false)
      (inner : StandsAt (above ++ [parent.name]) parent.childList position visit) :
      StandsAt above nodes (index :: position) visit

/-- What stands at a position that starts from a node: the node itself, or something below it. -/
def Node.StandsAt (above : List Text) (node : Node) (position : List Nat) (visit : Visit) : Prop :=
  position = [] ∧ visit = ⟨above, node⟩ ∨
    isScalarKind node.kind = false ∧
      EntityDiagram.StandsAt (above ++ [node.name]) node.childList position visit

/-- Visits with their positions, which are those of a description, each once and in order. -/
structure InOrder (placed : List (List Nat × Visit)) (stands : List Nat → Visit → Prop) : Prop where
  sorted : placed.Pairwise fun first second => List.Lex (· < ·) first.1 second.1
  mem_iff : ∀ position visit, (position, visit) ∈ placed ↔ stands position visit

theorem standsAt_iff {above : List Text} {nodes : List Node} {position : List Nat}
    {visit : Visit} :
    StandsAt above nodes position visit ↔
      ∃ index inner node, position = index :: inner ∧ nodes[index]? = some node ∧
        node.StandsAt above inner visit := by
  constructor
  · intro stands
    cases stands with
    | here found => exact ⟨_, _, _, rfl, found, .inl ⟨rfl, rfl⟩⟩
    | under found container inner => exact ⟨_, _, _, rfl, found, .inr ⟨container, inner⟩⟩
  · rintro ⟨index, inner, node, rfl, found, ⟨rfl, rfl⟩ | ⟨container, below⟩⟩
    · exact .here found
    · exact .under found container below

theorem StandsAt.position_ne_nil {above : List Text} {nodes : List Node} {position : List Nat}
    {visit : Visit} (stands : StandsAt above nodes position visit) : position ≠ [] := by
  cases stands <;> simp

/-- A position among the nodes behind a first one, counted from that one. -/
def laterPosition : List Nat → List Nat
  | [] => []
  | index :: inner => (index + 1) :: inner

theorem standsAt_cons_iff {above : List Text} {node : Node} {nodes : List Node}
    {position : List Nat} {visit : Visit} :
    StandsAt above (node :: nodes) position visit ↔
      (∃ inner, position = 0 :: inner ∧ node.StandsAt above inner visit) ∨
        ∃ other, position = laterPosition other ∧ StandsAt above nodes other visit := by
  simp only [standsAt_iff]
  constructor
  · rintro ⟨index, inner, found, rfl, listed, stands⟩
    cases index with
    | zero =>
        obtain rfl := Option.some.inj listed
        exact .inl ⟨inner, rfl, stands⟩
    | succ index => exact .inr ⟨index :: inner, rfl, index, inner, found, rfl, listed, stands⟩
  · rintro (⟨inner, rfl, stands⟩ | ⟨other, rfl, index, inner, found, rfl, listed, stands⟩)
    · exact ⟨0, inner, node, rfl, rfl, stands⟩
    · exact ⟨index + 1, inner, found, rfl, listed, stands⟩

theorem laterPosition_before {first second : List Nat} (nonempty : first ≠ [])
    (before : List.Lex (· < ·) first second) :
    List.Lex (· < ·) (laterPosition first) (laterPosition second) := by
  cases before with
  | nil => exact (nonempty rfl).elim
  | rel less => exact .rel (Nat.succ_lt_succ less)
  | cons below => exact .cons below

/-- The positions at the first node come before those at the nodes behind it. -/
theorem InOrder.cons {above : List Text} {node : Node} {nodes : List Node}
    {first later : List (List Nat × Visit)} (inFirst : InOrder first (node.StandsAt above))
    (inLater : InOrder later (StandsAt above nodes)) :
    InOrder (first.map (Prod.map (0 :: ·) id) ++ later.map (Prod.map laterPosition id))
      (StandsAt above (node :: nodes)) where
  sorted := by
    have nonempty {placed : List Nat × Visit} (member : placed ∈ later) : placed.1 ≠ [] :=
      ((inLater.mem_iff placed.1 placed.2).mp member).position_ne_nil
    refine List.pairwise_append.mpr ⟨?_, ?_, ?_⟩
    · refine List.pairwise_map.mpr (inFirst.sorted.imp fun {one other} before => ?_)
      exact .cons before
    · refine List.pairwise_map.mpr (inLater.sorted.imp_of_mem fun {one other} member _ before => ?_)
      exact laterPosition_before (nonempty member) before
    · intro one oneMember other otherMember
      obtain ⟨inner, -, rfl⟩ := List.mem_map.mp oneMember
      obtain ⟨⟨position, visit⟩, member, rfl⟩ := List.mem_map.mp otherMember
      cases position with
      | nil => exact (nonempty member rfl).elim
      | cons index rest => exact .rel (Nat.succ_pos index)
  mem_iff position visit := by
    rw [standsAt_cons_iff, List.mem_append]
    refine or_congr ?_ ?_
    · constructor
      · intro member
        obtain ⟨⟨inner, same⟩, inside, equal⟩ := List.mem_map.mp member
        cases equal
        exact ⟨inner, rfl, (inFirst.mem_iff _ _).mp inside⟩
      · rintro ⟨inner, rfl, stands⟩
        exact List.mem_map.mpr ⟨(inner, visit), (inFirst.mem_iff _ _).mpr stands, rfl⟩
    · constructor
      · intro member
        obtain ⟨⟨other, same⟩, inside, equal⟩ := List.mem_map.mp member
        cases equal
        exact ⟨other, rfl, (inLater.mem_iff _ _).mp inside⟩
      · rintro ⟨other, rfl, stands⟩
        exact List.mem_map.mpr ⟨(other, visit), (inLater.mem_iff _ _).mpr stands, rfl⟩

/-! ### Walks -/

/-- The visits below the nodes of one level are in the order of their positions, if so are those of
each node. -/
theorem walkNodes_inOrder_of_forall {above : List Text} {nodes : List Node}
    (each : ∀ node ∈ nodes, ∃ placed, placed.map Prod.snd = node.walk above ∧
      InOrder placed (node.StandsAt above)) :
    ∃ placed, placed.map Prod.snd = walkNodes above nodes ∧
      InOrder placed (StandsAt above nodes) := by
  induction nodes with
  | nil =>
      refine ⟨[], by rw [walkNodes, List.map_nil], List.Pairwise.nil, fun position visit => ?_⟩
      simp [standsAt_iff]
  | cons node nodes ih =>
      obtain ⟨⟨first, firstWalk, inFirst⟩, others⟩ := List.forall_mem_cons.mp each
      obtain ⟨later, laterWalk, inLater⟩ := ih others
      refine ⟨_, ?_, inFirst.cons inLater⟩
      rw [walkNodes, ← firstWalk, ← laterWalk]
      simp [Function.comp_def]

theorem Node.walk_inOrder (node : Node) (above : List Text) :
    ∃ placed, placed.map Prod.snd = node.walk above ∧ InOrder placed (node.StandsAt above) := by
  induction node using Node.induction_on_childList generalizing above with
  | step node ih =>
      rw [Node.walk_eq]
      cases scalar : isScalarKind node.kind with
      | true =>
          refine ⟨[([], ⟨above, node⟩)], rfl, List.pairwise_singleton _ _, fun position visit => ?_⟩
          simp [Node.StandsAt, scalar]
      | false =>
          obtain ⟨below, walked, inOrder⟩ := walkNodes_inOrder_of_forall
            fun child member => ih child member (above ++ [node.name])
          refine ⟨([], ⟨above, node⟩) :: below, by simp [walked], ?_, fun position visit => ?_⟩
          · refine List.pairwise_cons.mpr ⟨fun placed member => ?_, inOrder.sorted⟩
            have nonempty := ((inOrder.mem_iff placed.1 placed.2).mp member).position_ne_nil
            obtain ⟨index, inner, same⟩ := List.exists_cons_of_ne_nil nonempty
            rw [same]
            exact List.nil_lt_cons index inner
          · simp [Node.StandsAt, scalar, inOrder.mem_iff]

/-- A walk visits every position below no scalar once, and in order. -/
theorem Forest.walk_inOrder (forest : Forest) :
    ∃ placed, placed.map Prod.snd = forest.walk ∧ InOrder placed (StandsAt [] forest) :=
  walkNodes_inOrder_of_forall fun node _ => node.walk_inOrder []

/-! ### Containers -/

/-- A table for the nodes of one level, with a line for each that shows its name and its type. -/
def levelText (name : Text) (nodes : List Node) : Text :=
  Source.table name (nodes.map fun node =>
    Source.fieldLine node.name node.kind.display
      (node.column.constraint.map fun constraint => constraint.word))

/-- Whether a visit is at a container with fields, which has a table of its own. -/
def Visit.hasTable (visit : Visit) : Bool :=
  !isScalarKind visit.node.kind && !visit.node.childList.isEmpty

theorem table_text_eq (name : Text) (nodes : List Node) :
    Source.table name (Table.lines ⟨name, nodes.map Node.column⟩) = levelText name nodes := by
  rw [Table.lines, List.map_map]
  rfl

/-- The tables below some visits are those of the containers with fields among them. -/
theorem Visit.filterMap_below? (naming : Text → Text → Text) (entity : Text)
    (visits : List Visit) :
    (visits.filterMap (Visit.below? naming entity)).map
        (fun table => Source.table table.name table.lines) =
      (visits.filter Visit.hasTable).map fun visit =>
        levelText (visit.address.foldl naming entity) visit.node.childList := by
  induction visits with
  | nil => rfl
  | cons visit visits ih =>
      have named : naming (visit.table naming entity) visit.node.name =
          visit.address.foldl naming entity := by
        rw [Visit.address, List.foldl_concat, Visit.table]
      by_cases drawn : visit.hasTable = true
      · have below : visit.below? naming entity =
            some ⟨visit.address.foldl naming entity, visit.node.childList.map Node.column⟩ := by
          simp only [hasTable, Bool.and_eq_true, Bool.not_eq_true'] at drawn
          simp [below?, drawn.1, drawn.2, named]
        rw [List.filterMap_cons_some below, List.map_cons, List.filter_cons_of_pos drawn,
          List.map_cons, ih, table_text_eq]
      · have below : visit.below? naming entity = none := by
          have undrawn : (isScalarKind visit.node.kind || visit.node.childList.isEmpty) = true := by
            simpa [hasTable, or_iff_not_imp_left] using drawn
          rw [below?, if_pos undrawn]
        rw [List.filterMap_cons_none below, List.filter_cons_of_neg drawn, ih]

theorem Recorder.emit_ofFunction (naming : Text → Text → Text) (name : Text) (forest : Forest)
    (recorder : Recorder) :
    Id.run (Recorder.emit (Naming.ofFunction naming) name forest recorder) =
      (tableFragments name (forest.map (drawnField naming name)),
        ⟨recorder.relations ++ relationsOf name (forest.map (drawnField naming name))⟩) := by
  rw [← drawNodes_ofFunction]
  rfl

/-- The text of an entity's own table comes first, and then that of one table for each container
with fields that stands under containers only, in the order of positions.  Each is named by the
fields on the way to it, and has a line for each of its own fields. -/
theorem emit_containers (naming : Text → Text → Text) (name : Text) (forest : Forest)
    (recorder : Recorder) :
    ∃ containers : List (List Nat × Visit),
      InOrder containers (fun position visit =>
        StandsAt [] forest position visit ∧ isScalarKind visit.node.kind = false ∧
          visit.node.childList ≠ []) ∧
      (Id.run (Recorder.emit (Naming.ofFunction naming) name forest recorder)).1 =
        levelText name forest :: containers.map fun container =>
          levelText (container.2.address.foldl naming name) container.2.node.childList := by
  obtain ⟨placed, walked, inOrder⟩ := forest.walk_inOrder
  refine ⟨placed.filter fun visit => visit.2.hasTable, ⟨?_, fun position visit => ?_⟩, ?_⟩
  · exact inOrder.sorted.filter _
  · simp [List.mem_filter, inOrder.mem_iff, Visit.hasTable]
  · have nested := nestedTables_walked_of_forall naming name []
      fun node (_ : node ∈ forest) => nestedTables_drawnField naming name node []
    rw [List.foldl_nil, ← Forest.walk] at nested
    rw [Recorder.emit_ofFunction, tableFragments, tablesOf, map_drawnField_toColumn, nested,
      List.map_cons, table_text_eq, Visit.filterMap_below?, ← walked, List.filter_map, List.map_map]
    rfl

end EntityDiagram
