import EntityDiagram.Diagram.Table
import EntityDiagram.Proofs.Diagram.Drawing
import EntityDiagram.Proofs.Structure.Address

/-!
# Columns of a drawing

An address is followed through the tables of a drawing by their names: from a table with a column
of the first segment the relation of that column leads to the table of the next segment.  The main
statement is `DrawnAll.leads`: every node of a structure is found in this way, unless a node above
it is of a scalar kind and so has no table.
-/

namespace EntityDiagram

/-- Some table of a name has a column of a name. -/
def HasColumn (tables : List Table) (table column : Text) : Prop :=
  ∃ drawn ∈ tables, drawn.name = table ∧ ∃ other ∈ drawn.columns, other.name = column

/-- The segments of an address lead from a table over relations to a column. -/
inductive Leads (tables : List Table) (relations : List Relation) : Text → List Text → Prop
  | column {table name : Text} (drawn : HasColumn tables table name) :
      Leads tables relations table [name]
  | relation {table name target next : Text} {rest : List Text} {cardinality : Cardinality}
      (drawn : HasColumn tables table name)
      (linked : ⟨table, name, .text target, cardinality⟩ ∈ relations)
      (leads : Leads tables relations target (next :: rest)) :
      Leads tables relations table (name :: next :: rest)

/-- No node above an address is of a scalar kind. -/
def Forest.Visible (forest : Forest) (address : List Text) : Prop :=
  ∀ front node, front <+: address → front ≠ address → forest.at? front = some node →
    isScalarKind node.kind = false

theorem Forest.visible_singleton (forest : Forest) (name : Text) : forest.Visible [name] := by
  intro front node above different found
  match front with
  | [] => cases found
  | segment :: front =>
      obtain ⟨rfl, restAbove⟩ := List.cons_prefix_cons.mp above
      rw [List.prefix_nil.mp restAbove] at different
      exact (different rfl).elim

/-- What stands above an address is its first node and what stands above the rest below that. -/
theorem Forest.visible_cons_iff {forest : Forest} {name next : Text} {rest : List Text} :
    forest.Visible (name :: next :: rest) ↔
      ∀ node, forest.named? name = some node →
        isScalarKind node.kind = false ∧ node.childList.Visible (next :: rest) := by
  constructor
  · intro visible node named
    refine ⟨visible [name] node (by simp) (by simp) named, ?_⟩
    intro front inner above different found
    cases front with
    | nil => cases found
    | cons segment front =>
        refine visible (name :: segment :: front) inner ?_ ?_ ?_
        · exact List.cons_prefix_cons.mpr ⟨rfl, above⟩
        · exact fun same => different (List.cons.inj same).2
        · rw [Forest.at?, named]
          exact found
  · intro visible front inner above different found
    cases front with
    | nil => cases found
    | cons segment front =>
        obtain ⟨rfl, restAbove⟩ := List.cons_prefix_cons.mp above
        cases front with
        | nil => exact (visible inner found).1
        | cons second front =>
            rw [Forest.at?] at found
            obtain ⟨node, named, below⟩ := Option.bind_eq_some_iff.mp found
            refine (visible node named).2 (second :: front) inner restAbove ?_ below
            exact fun same => different (congrArg (segment :: ·) same)

/-! ### Tables and relations below a field -/

theorem nestedTables_append (first second : List Field) :
    nestedTables (first ++ second) = nestedTables first ++ nestedTables second := by
  induction first with
  | nil => simp [nestedTables]
  | cons field first ih =>
      cases field with
      | column _ _ _ => simp [nestedTables, ih]
      | container _ _ _ _ fields => cases fields <;> simp [nestedTables, ih]

theorem relationsOf_append (table : Text) (first second : List Field) :
    relationsOf table (first ++ second) = relationsOf table first ++ relationsOf table second := by
  induction first with
  | nil => simp [relationsOf]
  | cons field first ih =>
      cases field <;> simp [relationsOf, ih]

section

variable {name kind target : Text} {cardinality : Cardinality} {inner fields : List Field}
  (member : .container name kind cardinality target inner ∈ fields)

include member

/-- A container with fields has its tables among the nested ones. -/
theorem mem_nestedTables (nonempty : inner ≠ []) {table : Table}
    (below : table ∈ tablesOf target inner) : table ∈ nestedTables fields := by
  obtain ⟨before, after, rfl⟩ := List.append_of_mem member
  cases inner with
  | nil => exact (nonempty rfl).elim
  | cons field inner =>
      rw [nestedTables_append, nestedTables]
      rw [tablesOf] at below
      exact List.mem_append_right _ (List.mem_append_left _ below)

theorem mem_relationsOf (table : Text) :
    ⟨table, name, .text target, cardinality⟩ ∈ relationsOf table fields := by
  obtain ⟨before, after, rfl⟩ := List.append_of_mem member
  simp [relationsOf_append, relationsOf]

theorem relationsOf_subset (table : Text) {relation : Relation}
    (below : relation ∈ relationsOf target inner) : relation ∈ relationsOf table fields := by
  obtain ⟨before, after, rfl⟩ := List.append_of_mem member
  simp [relationsOf_append, relationsOf, below]

end

/-! ### Following an address -/

section

variable {m : Type → Type} [MonadAttach m] {naming : Naming m}

theorem Drawn.toColumn_name {table : Text} {node : Node} {field : Field}
    (drawn : Drawn naming table node field) : field.toColumn.name = node.name := by
  cases drawn <;> rfl

theorem DrawnAll.eq_nil {table : Text} {nodes : List Node}
    (drawn : DrawnAll naming table nodes []) : nodes = [] := by
  cases drawn
  rfl

theorem DrawnAll.exists_of_mem {table : Text} {nodes : List Node} {fields : List Field}
    (drawn : DrawnAll naming table nodes fields) {node : Node} (member : node ∈ nodes) :
    ∃ field ∈ fields, Drawn naming table node field := by
  induction nodes generalizing fields with
  | nil => cases member
  | cons other nodes ih =>
      cases drawn with
      | @cons _ _ field _ fields first rest =>
          rcases List.mem_cons.mp member with rfl | later
          · exact ⟨field, List.mem_cons_self, first⟩
          · obtain ⟨found, foundMember, foundDrawn⟩ := ih rest later
            exact ⟨found, List.mem_cons_of_mem field foundMember, foundDrawn⟩

theorem DrawnAll.hasColumn {table : Text} {forest : Forest} {fields : List Field}
    (drawn : DrawnAll naming table forest fields) {name : Text} {node : Node}
    (named : forest.named? name = some node) :
    HasColumn (tablesOf table fields) table name := by
  have bears : node.name = name := by simpa using List.find?_some named
  obtain ⟨field, member, fieldDrawn⟩ := drawn.exists_of_mem (List.mem_of_find?_eq_some named)
  refine ⟨_, List.mem_cons_self, rfl, field.toColumn, List.mem_map_of_mem member, ?_⟩
  rw [fieldDrawn.toColumn_name, bears]

theorem not_hasColumn {tables : List Table} {names : List Text} {column : Text}
    (columns : (tables.flatMap fun drawn => drawn.columns.map Column.name) = names)
    (absent : column ∉ names) (table : Text) : ¬ HasColumn tables table column := by
  rintro ⟨drawn, member, -, other, inColumns, rfl⟩
  rw [← columns] at absent
  exact absent (List.mem_flatMap.mpr ⟨drawn, member, List.mem_map_of_mem inColumns⟩)

theorem HasColumn.mono {tables more : List Table} {table column : Text}
    (drawn : HasColumn tables table column) (subset : tables ⊆ more) :
    HasColumn more table column := by
  obtain ⟨found, member, named, columns⟩ := drawn
  exact ⟨found, subset member, named, columns⟩

theorem Leads.mono {tables more : List Table} {relations others : List Relation} {table : Text}
    {address : List Text} (leads : Leads tables relations table address)
    (tablesSubset : tables ⊆ more) (relationsSubset : relations ⊆ others) :
    Leads more others table address := by
  induction leads with
  | column drawn => exact .column (drawn.mono tablesSubset)
  | relation drawn linked _ ih =>
      exact .relation (drawn.mono tablesSubset) (relationsSubset linked) ih

/-- A node of a structure is reached in its drawing.  The induction is on its address, of which
the first segment is the name of a container and the others lead on among its fields. -/
theorem DrawnAll.leads {table : Text} {forest : Forest} {fields : List Field}
    (drawn : DrawnAll naming table forest fields) {address : List Text} {node : Node}
    (found : forest.at? address = some node) (visible : forest.Visible address) :
    Leads (tablesOf table fields) (relationsOf table fields) table address := by
  induction address generalizing table forest fields with
  | nil => cases found
  | cons name rest ih =>
      match rest with
      | [] => exact .column (drawn.hasColumn found)
      | next :: rest =>
          rw [Forest.at?] at found
          obtain ⟨parent, named, childFound⟩ := Option.bind_eq_some_iff.mp found
          obtain ⟨field, member, fieldDrawn⟩ :=
            drawn.exists_of_mem (List.mem_of_find?_eq_some named)
          obtain ⟨notScalar, below⟩ := Forest.visible_cons_iff.mp visible parent named
          have bears : parent.name = name := by simpa using List.find?_some named
          cases fieldDrawn with
          | column scalar => simp [scalar] at notScalar
          | @container _ _ target kind options children inner _ _ belowDrawn =>
              subst bears
              have nonempty : inner ≠ [] := by
                rintro rfl
                have childless : children.getD [] = [] := belowDrawn.eq_nil
                rw [Node.childList, childless, Forest.at?_empty] at childFound
                cases childFound
              refine .relation (drawn.hasColumn named) (mem_relationsOf member table) ?_
              refine (ih belowDrawn childFound below).mono ?_ ?_
              · exact fun other otherBelow =>
                  List.mem_cons_of_mem _ (mem_nestedTables member nonempty otherBelow)
              · exact fun other otherBelow => relationsOf_subset member table otherBelow

end

end EntityDiagram
