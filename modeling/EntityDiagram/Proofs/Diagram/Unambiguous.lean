import EntityDiagram.Proofs.Diagram.Escaped

/-!
# Reading a diagram back

When all names are plain identifiers, the text of a full diagram can be read in one way only.  Each
part of it is told from what follows: a name ends where its identifier ends, a line of a column
from one of a method by the character behind the name, the last line of a table by its brace, and a
table from the next entity or from an edge by the blank lines before it.  The main statement is
`sheet_eq_of_render_eq`: diagrams with equal texts show the same.
-/

namespace EntityDiagram

/-! ### Plain names -/

/-- An identifier that is not an escaped word. -/
structure PlainName (name : Text) : Prop where
  nonempty : name ≠ []
  identifier : ∀ c ∈ name, Text.isIdentifier c = true
  unescaped : name ≠ "_label"

instance (name : Text) : Decidable (PlainName name) :=
  decidable_of_iff
    (name ≠ [] ∧ (∀ c ∈ name, Text.isIdentifier c = true) ∧ name ≠ "_label")
    ⟨fun ⟨nonempty, identifier, unescaped⟩ => ⟨nonempty, identifier, unescaped⟩,
      fun plain => ⟨plain.nonempty, plain.identifier, plain.unescaped⟩⟩

namespace PlainName

variable {name other : Text}

theorem escapeReserved_eq (plain : PlainName name) :
    escapeReserved name = if name = "label" then Text.ofString "_label" else name :=
  escapeReserved_of_identifier plain.identifier

theorem escapeReserved_identifier (plain : PlainName name) :
    ∀ c ∈ escapeReserved name, Text.isIdentifier c = true :=
  isIdentifier_escapeReserved plain.identifier

theorem escapeReserved_ne_nil (plain : PlainName name) : escapeReserved name ≠ [] := by
  rw [plain.escapeReserved_eq]
  split
  · decide
  · exact plain.nonempty

/-- No plain name is what another one is escaped to. -/
theorem eq_of_escapeReserved_eq (plain : PlainName name) (otherPlain : PlainName other)
    (same : escapeReserved name = escapeReserved other) : name = other := by
  rcases (escapeReserved_eq_iff plain.identifier otherPlain.identifier).mp same with
    equal | ⟨-, escaped⟩ | ⟨escaped, -⟩
  · exact equal
  · exact (otherPlain.unescaped escaped).elim
  · exact (plain.unescaped escaped).elim

end PlainName

/-- Whether a text starts with a character that ends an identifier. -/
def Text.cuts (text : Text) : Bool :=
  text.head?.any fun c => !isIdentifier c

/-- A plain name is read up to the end of its identifier. -/
theorem PlainName.read {name other : Text} (plain : PlainName name) (otherPlain : PlainName other)
    {rest tail : Text} (cut : rest.cuts = true) (otherCut : tail.cuts = true)
    (same : escapeReserved name ++ rest = escapeReserved other ++ tail) :
    name = other ∧ rest = tail := by
  cases rest with
  | nil => simp [Text.cuts] at cut
  | cons c rest =>
      cases tail with
      | nil => simp [Text.cuts] at otherCut
      | cons d tail =>
          obtain ⟨names, rfl, rfl⟩ := append_cons_inj_of_all plain.escapeReserved_identifier
            otherPlain.escapeReserved_identifier (by simpa [Text.cuts] using cut)
            (by simpa [Text.cuts] using otherCut) same
          exact ⟨plain.eq_of_escapeReserved_eq otherPlain names, rfl⟩

/-- A plain name does not start with a character that ends an identifier. -/
theorem PlainName.not_cuts {name : Text} (plain : PlainName name) (rest : Text) :
    (escapeReserved name ++ rest).cuts = false := by
  cases escaped : escapeReserved name with
  | nil => exact (plain.escapeReserved_ne_nil escaped).elim
  | cons c front =>
      have first := plain.escapeReserved_identifier c (by simp [escaped])
      simp [Text.cuts, first]

/-! ### Reading items one by one -/

/-- The texts of plain items can be told from each other and from what may follow them. -/
def Readable {α : Type} (plain : α → Prop) (after : Text → Prop) (text : α → Text) : Prop :=
  ∀ ⦃item other : α⦄ ⦃rest tail : Text⦄, plain item → plain other → after rest → after tail →
    text item ++ rest = text other ++ tail → item = other ∧ rest = tail

/-- Items in a row are read one by one, up to something with which none of them starts. -/
theorem Readable.flatMap {α : Type} {plain : α → Prop} {after stop : Text → Prop}
    {text : α → Text} (readable : Readable plain after text)
    (stops : ∀ rest, stop rest → after rest)
    (follows : ∀ item rest, plain item → after (text item ++ rest))
    (apart : ∀ item rest, plain item → ¬ stop (text item ++ rest)) :
    Readable (fun items : List α => ∀ item ∈ items, plain item) stop (List.flatMap text) := by
  have goesOn {items : List α} (plains : ∀ item ∈ items, plain item) {rest : Text}
      (stopped : stop rest) : after (items.flatMap text ++ rest) := by
    cases items with
    | nil => exact stops rest stopped
    | cons item items =>
        rw [List.flatMap_cons, List.append_assoc]
        exact follows item _ (plains item List.mem_cons_self)
  intro items
  induction items with
  | nil =>
      intro others rest tail _ plains stopped _ same
      cases others with
      | nil => exact ⟨rfl, same⟩
      | cons other others =>
          simp only [List.flatMap_nil, List.nil_append, List.flatMap_cons,
            List.append_assoc] at same
          exact (apart other _ (plains other List.mem_cons_self) (same ▸ stopped)).elim
  | cons item items ih =>
      intro others rest tail plains otherPlains stopped otherStopped same
      obtain ⟨itemPlain, itemsPlain⟩ := List.forall_mem_cons.mp plains
      simp only [List.flatMap_cons, List.append_assoc] at same
      cases others with
      | nil =>
          simp only [List.flatMap_nil, List.nil_append] at same
          exact (apart item _ itemPlain (same ▸ otherStopped)).elim
      | cons other others =>
          obtain ⟨otherPlain, othersPlain⟩ := List.forall_mem_cons.mp otherPlains
          simp only [List.flatMap_cons, List.append_assoc] at same
          obtain ⟨rfl, behind⟩ := readable itemPlain otherPlain (goesOn itemsPlain stopped)
            (goesOn othersPlain otherStopped) same
          obtain ⟨rfl, rests⟩ := ih itemsPlain othersPlain stopped otherStopped behind
          exact ⟨rfl, rests⟩

/-! ### Lines -/

/-- A line of a table, which shows a column or a method. -/
inductive ShownLine where
  | column (column : ShownColumn)
  | instanceMethod (name : Text)
  | staticMethod (name : Text)

namespace ShownLine

def name : ShownLine → Text
  | column shown => shown.name
  | instanceMethod name => name
  | staticMethod name => name

def tail : ShownLine → Text
  | column shown => ": " ++ (escapeReserved shown.kind ++ markTail shown.mark)
  | instanceMethod _ => "(): instanceMethod\n"
  | staticMethod _ => "(): staticMethod\n"

def text (line : ShownLine) : Text :=
  escapeReserved line.name ++ line.tail

def Plain : ShownLine → Prop
  | column shown => PlainName shown.name ∧ PlainName shown.kind
  | instanceMethod name => PlainName name
  | staticMethod name => PlainName name

theorem Plain.name {line : ShownLine} (plain : line.Plain) : PlainName line.name := by
  cases line with
  | column column => exact plain.1
  | instanceMethod _ | staticMethod _ => exact plain

theorem tail_cuts (line : ShownLine) (rest : Text) : (line.tail ++ rest).cuts = true := by
  cases line <;> rfl

end ShownLine

theorem markTail_cuts (mark : Option Mark) (rest : Text) : (markTail mark ++ rest).cuts = true := by
  match mark with
  | none | some .unique | some .foreignKey | some .primaryKey => rfl

theorem markTail_inj {mark other : Option Mark} {rest tail : Text}
    (same : markTail mark ++ rest = markTail other ++ tail) : mark = other ∧ rest = tail := by
  match mark, other with
  | none, none => exact ⟨rfl, List.append_cancel_left same⟩
  | some .unique, some .unique => exact ⟨rfl, List.append_cancel_left same⟩
  | some .foreignKey, some .foreignKey => exact ⟨rfl, List.append_cancel_left same⟩
  | some .primaryKey, some .primaryKey => exact ⟨rfl, List.append_cancel_left same⟩
  | none, some _ | some _, none =>
      simp [markTail, Text.ofString, Text.ofChars] at same
  | some .unique, some .foreignKey | some .unique, some .primaryKey
  | some .foreignKey, some .unique | some .foreignKey, some .primaryKey
  | some .primaryKey, some .unique | some .primaryKey, some .foreignKey =>
      simp [markTail, Mark.word, Text.ofString, Text.ofChars] at same

namespace ShownLine

theorem eq_of_tail_eq {line other : ShownLine} (plain : line.Plain) (otherPlain : other.Plain)
    (names : line.name = other.name) {rest behind : Text}
    (same : line.tail ++ rest = other.tail ++ behind) : line = other ∧ rest = behind := by
  match line, other with
  | .column first, .column second =>
      simp only [tail, List.append_assoc, List.append_cancel_left_eq] at same
      obtain ⟨kinds, same⟩ := plain.2.read otherPlain.2 (markTail_cuts _ _) (markTail_cuts _ _) same
      obtain ⟨marks, rests⟩ := markTail_inj same
      obtain ⟨name, kind, mark⟩ := first
      obtain ⟨otherName, otherKind, otherMark⟩ := second
      cases names
      cases kinds
      cases marks
      exact ⟨rfl, rests⟩
  | instanceMethod name, .instanceMethod _ | staticMethod name, .staticMethod _ =>
      cases names
      exact ⟨rfl, List.append_cancel_left same⟩
  | column _, .instanceMethod _ | column _, .staticMethod _ | instanceMethod _, .column _
  | staticMethod _, .column _ | instanceMethod _, .staticMethod _
  | staticMethod _, .instanceMethod _ =>
      simp [tail, Text.ofString, Text.ofChars] at same

theorem readable : Readable Plain (fun _ => True) text := by
  intro line other rest behind plain otherPlain _ _ same
  rw [text, text, List.append_assoc, List.append_assoc] at same
  obtain ⟨names, tails⟩ :=
    plain.name.read otherPlain.name (line.tail_cuts _) (other.tail_cuts _) same
  exact eq_of_tail_eq plain otherPlain names tails

end ShownLine

theorem ShownColumn.rename_line (column : ShownColumn) :
    (column.rename escapeReserved).line = (ShownLine.column column).text := by
  rw [ShownColumn.line_eq]
  rfl

/-! ### Tables -/

structure Block where
  name : Text
  lines : List ShownLine

namespace Block

def text (block : Block) : Text :=
  Source.table (escapeReserved block.name) (block.lines.map ShownLine.text)

structure Plain (block : Block) : Prop where
  name : PlainName block.name
  lines : ∀ line ∈ block.lines, line.Plain

/-- The lines of a table end at its closing brace, with which no line starts. -/
theorem lines_readable :
    Readable (fun lines : List ShownLine => ∀ line ∈ lines, line.Plain)
      (fun rest => rest.cuts = true) (List.flatMap ShownLine.text) := by
  refine ShownLine.readable.flatMap (fun _ _ => trivial) (fun _ _ _ => trivial) ?_
  intro line rest plain
  rw [ShownLine.text, List.append_assoc, plain.name.not_cuts]
  simp

theorem text_append (block : Block) (rest : Text) :
    block.text ++ rest = escapeReserved block.name ++ (": \x7b\nshape: sql_table\n" ++
      (block.lines.flatMap ShownLine.text ++ ("\x7d\n" ++ rest))) := by
  simp [text, table_eq, Text.join, List.flatMap_def]

theorem readable : Readable Plain (fun _ => True) text := by
  intro block other rest tail plain otherPlain _ _ same
  rw [text_append, text_append] at same
  obtain ⟨names, same⟩ := plain.name.read otherPlain.name rfl rfl same
  rw [List.append_cancel_left_eq] at same
  obtain ⟨lines, same⟩ := lines_readable plain.lines otherPlain.lines rfl rfl same
  refine ⟨?_, List.append_cancel_left same⟩
  obtain ⟨name, blockLines⟩ := block
  obtain ⟨otherName, otherLines⟩ := other
  cases names
  cases lines
  rfl

end Block

def ShownTable.block (table : ShownTable) : Block :=
  ⟨table.name, table.columns.map .column⟩

theorem ShownTable.block_injective : Function.Injective ShownTable.block := by
  intro table other same
  obtain ⟨name, columns⟩ := table
  obtain ⟨otherName, otherColumns⟩ := other
  simp only [ShownTable.block, Block.mk.injEq] at same
  obtain ⟨rfl, same⟩ := same
  have columnInjective : Function.Injective ShownLine.column := by
    intro first second equal
    cases equal
    rfl
  rw [columnInjective.list_map same]

theorem ShownTable.block_text (table : ShownTable) :
    (table.rename escapeReserved).text = table.block.text := by
  simp [ShownTable.text, ShownTable.lines, ShownTable.rename, Block.text, ShownTable.block,
    ShownColumn.rename_line, Function.comp_def]

def ShownEntity.ownBlock (entity : ShownEntity) : Block where
  name := entity.own.name
  lines := entity.own.columns.map .column ++
    (entity.instanceMethods.map .instanceMethod ++ entity.staticMethods.map .staticMethod)

namespace ShownLine

def column? : ShownLine → Option ShownColumn
  | column shown => some shown
  | _ => none

def instanceMethod? : ShownLine → Option Text
  | instanceMethod name => some name
  | _ => none

def staticMethod? : ShownLine → Option Text
  | staticMethod name => some name
  | _ => none

end ShownLine

namespace ShownEntity

theorem ownBlock_text (entity : ShownEntity) :
    (entity.rename escapeReserved).ownText = entity.ownBlock.text := by
  have instances (name : Text) : Source.methodLine (escapeReserved name) "instanceMethod" =
      (ShownLine.instanceMethod name).text :=
    methodLine_eq _ _
  have statics (name : Text) : Source.methodLine (escapeReserved name) "staticMethod" =
      (ShownLine.staticMethod name).text :=
    methodLine_eq _ _
  simp [ownText, rename, methodLines, ShownTable.lines, ShownTable.rename, Block.text, ownBlock,
    ShownColumn.rename_line, instances, statics, Function.comp_def]

/-- The lines of a table tell its columns and the two sorts of methods. -/
theorem eq_of_ownBlock_eq {entity other : ShownEntity} (same : entity.ownBlock = other.ownBlock) :
    entity.own = other.own ∧ entity.instanceMethods = other.instanceMethods ∧
      entity.staticMethods = other.staticMethods := by
  obtain ⟨⟨name, columns⟩, instances, statics, nested⟩ := entity
  obtain ⟨⟨otherName, otherColumns⟩, otherInstances, otherStatics, otherNested⟩ := other
  simp only [ownBlock, Block.mk.injEq] at same
  obtain ⟨rfl, lines⟩ := same
  have sameColumns := congrArg (List.filterMap ShownLine.column?) lines
  have sameInstances := congrArg (List.filterMap ShownLine.instanceMethod?) lines
  have sameStatics := congrArg (List.filterMap ShownLine.staticMethod?) lines
  simp only [List.filterMap_append, List.filterMap_map] at sameColumns sameInstances sameStatics
  simp [Function.comp_def, ShownLine.column?] at sameColumns
  simp [Function.comp_def, ShownLine.instanceMethod?] at sameInstances
  simp [Function.comp_def, ShownLine.staticMethod?] at sameStatics
  rw [sameColumns, sameInstances, sameStatics]
  exact ⟨rfl, rfl, rfl⟩

end ShownEntity

/-! ### Entities -/

theorem Block.text_not_cuts {block : Block} (plain : block.Plain) (rest : Text) :
    (block.text ++ rest).cuts = false := by
  rw [Block.text_append]
  exact plain.name.not_cuts _

/-- Two blank lines part a table from the one before it of the same entity. -/
def Text.StartsTable (text : Text) : Prop :=
  ("\n\n" : Text) <+: text

def ShownTable.partedText (table : ShownTable) : Text :=
  "\n\n" ++ table.block.text

theorem ShownTable.partedText_readable :
    Readable (fun table : ShownTable => table.block.Plain) (fun _ => True)
      ShownTable.partedText := by
  intro table other rest tail plain otherPlain _ _ same
  rw [partedText, partedText, List.append_assoc, List.append_assoc,
    List.append_cancel_left_eq] at same
  obtain ⟨blocks, rests⟩ := Block.readable plain otherPlain trivial trivial same
  exact ⟨ShownTable.block_injective blocks, rests⟩

theorem ShownTable.partedTexts_readable :
    Readable (fun tables : List ShownTable => ∀ table ∈ tables, table.block.Plain)
      (fun rest => ¬ rest.StartsTable) (List.flatMap ShownTable.partedText) := by
  refine ShownTable.partedText_readable.flatMap (fun _ _ => trivial) (fun _ _ _ => trivial) ?_
  intro table rest _ apart
  apply apart
  rw [partedText, List.append_assoc]
  exact List.prefix_append _ _

namespace ShownEntity

structure Plain (entity : ShownEntity) : Prop where
  own : entity.ownBlock.Plain
  nested : ∀ table ∈ entity.nested, table.block.Plain

def partedText (entity : ShownEntity) : Text :=
  "\n" ++ (entity.ownBlock.text ++ entity.nested.flatMap ShownTable.partedText)

theorem partedText_eq (entity : ShownEntity) :
    "\n" ++ (entity.rename escapeReserved).text = entity.partedText := by
  rw [text, Text.joinWith_cons, ownBlock_text, partedText]
  simp only [rename, List.flatMap_map, List.map_map, Function.comp_def, ShownTable.block_text]
  rfl

theorem partedText_readable :
    Readable Plain (fun rest => ¬ rest.StartsTable) partedText := by
  intro entity other rest tail plain otherPlain apart otherApart same
  simp only [partedText, List.append_assoc, List.append_cancel_left_eq] at same
  obtain ⟨blocks, same⟩ := Block.readable plain.own otherPlain.own trivial trivial same
  obtain ⟨nested, rests⟩ :=
    ShownTable.partedTexts_readable plain.nested otherPlain.nested apart otherApart same
  refine ⟨?_, rests⟩
  obtain ⟨own, instances, statics⟩ := eq_of_ownBlock_eq blocks
  obtain ⟨_, _, _, _⟩ := entity
  obtain ⟨_, _, _, _⟩ := other
  cases own
  cases instances
  cases statics
  cases nested
  rfl

theorem not_startsTable_partedText {entity : ShownEntity} (plain : entity.Plain) (rest : Text) :
    ¬ (entity.partedText ++ rest).StartsTable := by
  -- Behind the one blank line before an entity stands its name, which is no second one.
  rintro ⟨behind, same⟩
  rw [partedText, List.append_assoc, List.append_assoc] at same
  have second : ("\n" : Text) ++ behind =
      entity.ownBlock.text ++ (entity.nested.flatMap ShownTable.partedText ++ rest) :=
    (List.cons.inj same).2
  have notCut := Block.text_not_cuts plain.own (entity.nested.flatMap ShownTable.partedText ++ rest)
  rw [← second] at notCut
  cases notCut

/-- Entities are read one by one, up to something that no blank line stands before. -/
theorem partedTexts_readable :
    Readable (fun entities : List ShownEntity => ∀ entity ∈ entities, entity.Plain)
      (fun rest => rest.head? ≠ some (CodePoint.char '\n')) (List.flatMap partedText) := by
  refine partedText_readable.flatMap ?_ (fun entity rest plain =>
    not_startsTable_partedText plain rest) ?_
  · rintro rest notBlank ⟨behind, rfl⟩
    exact notBlank rfl
  · intro entity rest _ notBlank
    exact notBlank rfl

end ShownEntity

/-! ### Edges -/

namespace ShownEdge

structure Plain (edge : ShownEdge) : Prop where
  table : PlainName edge.table
  field : PlainName edge.field
  target : PlainName edge.target

theorem line_append (edge : ShownEdge) (rest : Text) :
    (edge.rename escapeReserved).line ++ rest =
      escapeReserved edge.table ++ ("." ++ (escapeReserved edge.field ++
        (" -> " ++ (escapeReserved edge.target ++ ("\n" ++ rest))))) := by
  simp [line, rename, edgeLine_eq]

theorem readable :
    Readable Plain (fun _ => True) fun edge => (edge.rename escapeReserved).line := by
  intro edge other rest tail plain otherPlain _ _ same
  simp only [line_append] at same
  obtain ⟨tables, same⟩ := plain.table.read otherPlain.table rfl rfl same
  rw [List.append_cancel_left_eq] at same
  obtain ⟨fields, same⟩ := plain.field.read otherPlain.field rfl rfl same
  rw [List.append_cancel_left_eq] at same
  obtain ⟨targets, same⟩ := plain.target.read otherPlain.target rfl rfl same
  refine ⟨?_, List.append_cancel_left same⟩
  obtain ⟨_, _, _⟩ := edge
  obtain ⟨_, _, _⟩ := other
  cases tables
  cases fields
  cases targets
  rfl

theorem lines_readable :
    Readable (fun edges : List ShownEdge => ∀ edge ∈ edges, edge.Plain) (fun rest => rest = [])
      (List.flatMap fun edge => (edge.rename escapeReserved).line) := by
  refine readable.flatMap (fun _ _ => trivial) (fun _ _ _ => trivial) ?_
  intro edge rest plain empty
  rw [line_append, List.append_eq_nil_iff] at empty
  exact plain.table.escapeReserved_ne_nil empty.1

theorem head?_lines_ne {edges : List ShownEdge} (plain : ∀ edge ∈ edges, edge.Plain) :
    (edges.flatMap fun edge => (edge.rename escapeReserved).line).head? ≠
      some (CodePoint.char '\n') := by
  cases edges with
  | nil => simp
  | cons edge edges =>
      intro blank
      rw [List.flatMap_cons, line_append] at blank
      have notCut := (plain edge List.mem_cons_self).table.not_cuts ("." ++
        (escapeReserved edge.field ++ (" -> " ++ (escapeReserved edge.target ++ ("\n" ++
          edges.flatMap fun edge => (edge.rename escapeReserved).line)))))
      rw [Text.cuts, blank] at notCut
      cases notCut

end ShownEdge

/-! ### Diagrams -/

def ShownTable.names (table : ShownTable) : List Text :=
  table.name :: table.columns.flatMap fun column => [column.name, column.kind]

def ShownEntity.names (entity : ShownEntity) : List Text :=
  entity.own.names ++ (entity.instanceMethods ++ (entity.staticMethods ++
    entity.nested.flatMap ShownTable.names))

def ShownEdge.names (edge : ShownEdge) : List Text :=
  [edge.table, edge.field, edge.target]

def Sheet.names (sheet : Sheet) : List Text :=
  sheet.entities.flatMap ShownEntity.names ++ sheet.edges.flatMap ShownEdge.names

theorem ShownTable.block_plain {table : ShownTable}
    (plain : ∀ name ∈ table.names, PlainName name) : table.block.Plain := by
  obtain ⟨name, columns⟩ := List.forall_mem_cons.mp plain
  refine ⟨name, List.forall_mem_map.mpr fun column member => ?_⟩
  have names := List.forall_mem_flatMap.mp columns column member
  exact ⟨names _ (by simp), names _ (by simp)⟩

theorem ShownEntity.plain_of_names {entity : ShownEntity}
    (plain : ∀ name ∈ entity.names, PlainName name) : entity.Plain := by
  simp only [names, List.forall_mem_append, List.forall_mem_flatMap] at plain
  obtain ⟨own, instances, statics, nested⟩ := plain
  have ownPlain := ShownTable.block_plain own
  refine ⟨⟨ownPlain.name, ?_⟩, fun table member => ShownTable.block_plain (nested table member)⟩
  simp only [ownBlock, List.forall_mem_append, List.forall_mem_map]
  exact ⟨List.forall_mem_map.mp ownPlain.lines, instances, statics⟩

theorem ShownEdge.plain_of_names {edge : ShownEdge}
    (plain : ∀ name ∈ edge.names, PlainName name) : edge.Plain :=
  ⟨plain _ (by simp [names]), plain _ (by simp [names]), plain _ (by simp [names])⟩

/-- A sheet with plain names that has edges only where it has tables. -/
structure Sheet.Plain (sheet : Sheet) : Prop where
  entities : ∀ entity ∈ sheet.entities, entity.Plain
  edges : ∀ edge ∈ sheet.edges, edge.Plain
  grounded : sheet.entities = [] → sheet.edges = []

namespace Sheet

theorem partedText_eq {sheet : Sheet} (nonempty : sheet.entities ≠ []) :
    ("\n" : Text) ++ (sheet.rename escapeReserved).text =
      sheet.entities.flatMap ShownEntity.partedText ++
        ((sheet.edges.flatMap fun edge => (edge.rename escapeReserved).line) ++ []) := by
  obtain ⟨entities, edges⟩ := sheet
  cases entities with
  | nil => exact (nonempty rfl).elim
  | cons entity entities =>
      have parted : (fun entity : ShownEntity =>
          ("\n" : Text) ++ (entity.rename escapeReserved).text) = ShownEntity.partedText :=
        funext ShownEntity.partedText_eq
      simp only [text, rename, List.map_cons, Text.joinWith_cons, List.flatMap_cons,
        List.flatMap_map, ← parted]
      simp [List.flatMap_def, Text.join, Function.comp_def]

theorem text_ne_nil {sheet : Sheet} (plain : sheet.Plain) (nonempty : sheet.entities ≠ []) :
    (sheet.rename escapeReserved).text ≠ [] := by
  intro empty
  have parted := partedText_eq nonempty
  obtain ⟨entities, edges⟩ := sheet
  cases entities with
  | nil => exact (nonempty rfl).elim
  | cons entity entities =>
      rw [empty, List.flatMap_cons, ShownEntity.partedText, List.append_assoc, List.append_assoc,
        List.append_assoc] at parted
      have starts : escapeReserved entity.ownBlock.name ++ _ = [] :=
        (Block.text_append _ _).symm.trans (List.cons.inj parted).2.symm
      exact (plain.entities entity List.mem_cons_self).own.name.escapeReserved_ne_nil
        (List.append_eq_nil_iff.mp starts).1

theorem eq_of_text_eq {sheet other : Sheet} (plain : sheet.Plain) (otherPlain : other.Plain)
    (same : (sheet.rename escapeReserved).text = (other.rename escapeReserved).text) :
    sheet = other := by
  have emptyText {sheet : Sheet} (plain : sheet.Plain) (empty : sheet.entities = []) :
      (sheet.rename escapeReserved).text = [] := by
    simp [text, rename, empty, plain.grounded empty, Text.joinWith, Text.join]
  by_cases empty : sheet.entities = []
  · by_cases otherEmpty : other.entities = []
    · obtain ⟨entities, edges⟩ := sheet
      obtain ⟨otherEntities, otherEdges⟩ := other
      have noEdges : edges = [] := plain.grounded empty
      have noOtherEdges : otherEdges = [] := otherPlain.grounded otherEmpty
      cases empty
      cases otherEmpty
      rw [noEdges, noOtherEdges]
    · exact (text_ne_nil otherPlain otherEmpty (same ▸ emptyText plain empty)).elim
  · by_cases otherEmpty : other.entities = []
    · exact (text_ne_nil plain empty (same.trans (emptyText otherPlain otherEmpty))).elim
    · have parted := congrArg (("\n" : Text) ++ ·) same
      simp only [partedText_eq empty, partedText_eq otherEmpty] at parted
      obtain ⟨entities, behind⟩ := ShownEntity.partedTexts_readable plain.entities
        otherPlain.entities (by simpa using ShownEdge.head?_lines_ne plain.edges)
        (by simpa using ShownEdge.head?_lines_ne otherPlain.edges) parted
      obtain ⟨edges, -⟩ := ShownEdge.lines_readable plain.edges otherPlain.edges rfl rfl behind
      obtain ⟨_, _⟩ := sheet
      obtain ⟨_, _⟩ := other
      cases entities
      cases edges
      rfl

end Sheet

theorem sheetOf_plain {drawings : List Drawing}
    (plain : ∀ name ∈ (sheetOf drawings).names, PlainName name) : (sheetOf drawings).Plain := by
  simp only [Sheet.names, List.forall_mem_append, List.forall_mem_flatMap] at plain
  refine ⟨fun entity member => ShownEntity.plain_of_names (plain.1 entity member),
    fun edge member => ShownEdge.plain_of_names (plain.2 edge member), fun none_drawn => ?_⟩
  obtain rfl := List.map_eq_nil_iff.mp none_drawn
  rfl

section

variable {σ ε : Type} {naming : Naming (StateT σ (Except ε))} {models : List EntityModel}
  {state after : σ} {drawings : List Drawing}

theorem Recorder.render_of_drawn
    (drawn : (models.mapM (Drawing.ofModel naming)).run state = .ok (drawings, after))
    (recorder : Recorder) :
    (Recorder.render naming models recorder).run state =
      .ok ((drawingsText drawings, ⟨drawings.flatMap Drawing.relations⟩), after) := by
  rw [Recorder.render_eq, StateT.run_map, drawn]
  rfl

variable {τ δ : Type} {otherNaming : Naming (StateT τ (Except δ))} {others : List EntityModel}
  {otherState otherAfter : τ} {otherDrawings : List Drawing}

/-- Two full diagrams of which all names are plain and that have the same text show the same: the
same entities with the same tables, columns and methods in the same order, and the same edges.
The namings may keep a state and may fail. -/
theorem sheet_eq_of_render_eq {recorder otherRecorder record otherRecord : Recorder} {text : Text}
    (drawn : (models.mapM (Drawing.ofModel naming)).run state = .ok (drawings, after))
    (otherDrawn :
      (others.mapM (Drawing.ofModel otherNaming)).run otherState = .ok (otherDrawings, otherAfter))
    (plain : ∀ name ∈ (sheetOf drawings).names, PlainName name)
    (otherPlain : ∀ name ∈ (sheetOf otherDrawings).names, PlainName name)
    (rendered : (Recorder.render naming models recorder).run state = .ok ((text, record), after))
    (otherRendered : (Recorder.render otherNaming others otherRecorder).run otherState =
      .ok ((text, otherRecord), otherAfter)) :
    sheetOf drawings = sheetOf otherDrawings := by
  rw [Recorder.render_of_drawn drawn] at rendered
  rw [Recorder.render_of_drawn otherDrawn] at otherRendered
  simp only [Except.ok.injEq, Prod.mk.injEq] at rendered otherRendered
  have same : drawingsText drawings = drawingsText otherDrawings :=
    rendered.1.1.trans otherRendered.1.1.symm
  simp only [drawingsText_eq, Sheet.escapeReserved_text] at same
  exact Sheet.eq_of_text_eq (sheetOf_plain plain) (sheetOf_plain otherPlain) same

end

/-- A naming that counts the tables it has named by strokes. -/
def strokeNaming : Naming (StateT Nat (Except Fault)) where
  entity name := liftM name.written
  nested _ _ := modifyGet fun count => (List.replicate count (CodePoint.char 'I'), count + 1)

def fieldNaming : Naming (StateT Unit (Except Fault)) where
  entity name := liftM name.written
  nested _ field := pure field

/-- A model with comments.  What stands below its author, a scalar, is not drawn. -/
def threadModel (hidden : Option Forest) : EntityModel where
  name := .text "Thread"
  forest := [⟨"author", .text "ObjectID", ⟨false, false, .text "User"⟩, hidden⟩,
    ⟨"III", .text "Array", Options.none, some
      [⟨"label", .text "String", ⟨true, false, .null⟩, none⟩]⟩]
  instanceMethods := [.text "close"]
  staticMethods := []

/-- What a thread is drawn to with the field's name or with three strokes. -/
def threadDrawing : Drawing where
  name := "Thread"
  fields := [.column "author" "ObjectID" (some (.foreignKey (.text "User"))),
    .container "III" "Array" .oneToMany "III" [.column "label" "String" none]]
  instanceMethods := ["close"]
  staticMethods := []

def threadSheet : Sheet where
  entities :=
    [⟨⟨"Thread", [⟨"author", "ObjectID", some .foreignKey⟩, ⟨"III", "Array", none⟩]⟩,
      ["close"], [], [⟨"III", [⟨"label", "String", none⟩]⟩]⟩]
  edges := [⟨"Thread", "author", "User"⟩, ⟨"Thread", "III", "III"⟩]

theorem sheetOf_threadDrawing : sheetOf [threadDrawing] = threadSheet := by
  have nested : nestedTables threadDrawing.fields = [⟨"III", [⟨"label", "String", none⟩]⟩] := by
    simp [threadDrawing, nestedTables, Field.toColumn]
  have relations : threadDrawing.relations =
      [⟨"Thread", "author", .text "User", .oneToOne⟩,
        ⟨"Thread", "III", .text "III", .oneToMany⟩] := by
    simp [threadDrawing, Drawing.relations, relationsOf, columnRelations]
  simp only [sheetOf, List.map_cons, List.map_nil, Drawing.shown, nested, List.flatMap_cons,
    List.flatMap_nil, relations]
  rfl

theorem thread_sheets_eq :
    let models := [threadModel none]
    let others := [threadModel (some [Node.fresh "profile"])]
    ∃ drawings otherDrawings text record otherRecord,
      (models.mapM (Drawing.ofModel strokeNaming)).run 3 = .ok (drawings, 4) ∧
      (others.mapM (Drawing.ofModel fieldNaming)).run () = .ok (otherDrawings, ()) ∧
      (Recorder.render strokeNaming models Recorder.start).run 3 = .ok ((text, record), 4) ∧
      (Recorder.render fieldNaming others Recorder.start).run () = .ok ((text, otherRecord), ()) ∧
      sheetOf drawings = sheetOf otherDrawings := by
  intro models others
  have drawn : (models.mapM (Drawing.ofModel strokeNaming)).run 3 = .ok ([threadDrawing], 4) := rfl
  have otherDrawn : (others.mapM (Drawing.ofModel fieldNaming)).run () =
      .ok ([threadDrawing], ()) := rfl
  have plain : ∀ name ∈ (sheetOf [threadDrawing]).names, PlainName name := by
    rw [sheetOf_threadDrawing]
    decide
  have rendered := Recorder.render_of_drawn drawn Recorder.start
  have otherRendered := Recorder.render_of_drawn otherDrawn Recorder.start
  exact ⟨_, _, _, _, _, drawn, otherDrawn, rendered, otherRendered,
    sheet_eq_of_render_eq drawn otherDrawn plain plain rendered otherRendered⟩

end EntityDiagram
