import EntityDiagram.Diagram.Recorder
import EntityDiagram.Proofs.Collection
import EntityDiagram.Proofs.Diagram.Columns
import EntityDiagram.Proofs.Diagram.Hashed
import EntityDiagram.Proofs.Document.Models
import EntityDiagram.Proofs.Structure.Kept

/-!
# Declared columns in the diagram

From the fields of an accepted document to the tables of the full diagram a declared column can be
lost in four ways: a later path replaces what stands above it, a node above it is a column itself,
an own schema stands beside the schema of its array's element, or its schema belongs to the
element of an element.  The main statement, `kept_columns_drawn`, is that there are no others.
-/

namespace EntityDiagram

open MonadAttach (CanReturn)

section

variable {m : Type → Type} [Monad m] [LawfulMonad m] [MonadAttach m] [LawfulMonadAttach m]

/-- Whatever a recorder emits are the tables and the relations of drawn fields. -/
theorem Recorder.emit_drawn {naming : Naming m} {table : Text} {forest : Forest}
    {recorder : Recorder} {answer : List Text × Recorder}
    (answers : CanReturn (Recorder.emit naming table forest recorder) answer) :
    ∃ fields, DrawnAll naming table forest fields ∧
      answer = (tableFragments table fields,
        ⟨recorder.relations ++ relationsOf table fields⟩) := by
  obtain ⟨fields, drawn, answers⟩ := LawfulMonadAttach.canReturn_bind_imp' answers
  exact ⟨fields, drawNodes_drawn drawn, (LawfulMonadAttach.eq_of_canReturn_pure answers).symm⟩

end

/-- Every column that the fields of a model declare and keep is drawn, as far as no node above it
is of a scalar kind.  In whatever monad the tables are named, the tables and relations that are
emitted for the structure lead to the column; and with hashed names some are emitted. -/
theorem kept_columns_drawn {document : Mapping} (accepted : validate (.map document) = .ok ())
    {names : List Value} {collected : List EntityModel}
    (collects : collectAll (modelsOf document) names = .ok collected) {model : EntityModel}
    (member : model ∈ collected) :
    ∃ paths, pathsOf (modelsOf document) model.name = .ok paths ∧
      (∀ (m : Type → Type) [Monad m] [LawfulMonad m] [MonadAttach m] [LawfulMonadAttach m]
        (naming : Naming m) (table : Text) (recorder : Recorder) (answer : List Text × Recorder),
        CanReturn (Recorder.emit naming table model.forest recorder) answer →
          ∃ tables relations,
            answer = (tables.map fun drawn => Source.table drawn.name drawn.lines,
              ⟨recorder.relations ++ relations⟩) ∧
            ∀ address, Kept paths address → model.forest.Visible address →
              Leads tables relations table address) ∧
      ((Value.map document).isUnicode = true → ∀ (table : Text) (recorder : Recorder),
        table.isUnicode = true →
          ∃ answer, Recorder.emit hashedNaming table model.forest recorder = .ok answer) := by
  obtain ⟨-, sound⟩ := Provider.collect_sound (collectAll_eq_ok_iff.mp collects)
  obtain ⟨paths, forest, methods, read, built, -, grown⟩ :=
    Provider.model_eq_ok_iff.mp (sound model member)
  have sameForest : model.forest = forest := by
    rw [grown]
  refine ⟨paths, read, ?_, ?_⟩
  · intro m _ _ _ _ naming table recorder answer answers
    obtain ⟨fields, drawn, emitted⟩ := Recorder.emit_drawn answers
    refine ⟨tablesOf table fields, relationsOf table fields, emitted, ?_⟩
    intro address kept visible
    have present := kept.present (pathsOf_wellFormed accepted read).complete built
    rw [Forest.typeAt?, Option.isSome_map, ← sameForest] at present
    obtain ⟨node, found⟩ := Option.isSome_iff_exists.mp present
    exact drawn.leads found visible
  · intro unicode table recorder tableUnicode
    have within := (pathsOf_unicode (isUnicode_modelsOf unicode) read).buildForest built
    obtain ⟨fields, drawn⟩ := drawNodes_hashed_returns within tableUnicode
    exact ⟨_, bind_eq_ok_iff.mpr ⟨fields, sameForest ▸ drawn, rfl⟩⟩

/-- A model with a column in the schema of an array's element and a path that retypes the array. -/
def nestedDocument : Mapping :=
  [(.text "models", .map [(.text "Post", .map [(.text "fields", .map
    [(.text "log", .map [(.text "entries", .map
        [(.text "type", .text "Array"),
          (.text "of", .map [(.text "schema", .map [(.text "at.day", .text "Date")])])])]),
      (.text "log.entries", .text "Map")])])])]

/-- The paths of that model. -/
def nestedPaths : Paths :=
  [("log.entries", .typed (.text "Array") Options.none none
      (.typed (.text "Embedded") Options.none (some [("at.day", .ofKind (.text "Date"))])
        .missing)),
    ("log.entries", .ofKind (.text "Map"))]

/-- The structure that they build. -/
def nestedForest : Forest :=
  [⟨"log", .text "Embedded", Options.none, some
    [⟨"entries", .text "Map", Options.none, some
      [⟨"at", .text "Embedded", Options.none, some
        [⟨"day", .text "Date", Options.none, none⟩]⟩]⟩]⟩]

theorem nestedPaths_kept : Kept nestedPaths ["log", "entries", "at", "day"] := by
  have below : Kept [("at.day", .ofKind (.text "Date"))] ["at", "day"] :=
    @Kept.path [] [] ("at.day", .ofKind (.text "Date")) (by simp)
  refine @Kept.nested [] _ _ _ _ rfl below ?_
  simp [Governs, Descriptor.ofKind, Descriptor.replaces]

theorem nestedForest_visible : nestedForest.Visible ["log", "entries", "at", "day"] := by
  simp only [Forest.visible_cons_iff]
  rintro log ⟨⟩
  refine ⟨rfl, ?_⟩
  rintro entries ⟨⟩
  refine ⟨rfl, ?_⟩
  rintro at_ ⟨⟩
  exact ⟨rfl, Forest.visible_singleton _ _⟩

theorem nestedDocument_drawn :
    validate (.map nestedDocument) = .ok () ∧
      ∃ model, collectAll (modelsOf nestedDocument) [.text "Post"] = .ok [model] ∧
        ∀ table : Text, table.isUnicode = true → ∃ tables relations,
          Recorder.emit hashedNaming table model.forest Recorder.start =
            .ok (tables.map fun drawn => Source.table drawn.name drawn.lines, ⟨relations⟩) ∧
          Leads tables relations table ["log", "entries", "at", "day"] := by
  have accepted : validate (.map nestedDocument) = .ok () := rfl
  refine ⟨accepted, ⟨.text "Post", nestedForest, [], []⟩, rfl, fun table unicode => ?_⟩
  have collects : collectAll (modelsOf nestedDocument) [.text "Post"] =
      .ok [⟨.text "Post", nestedForest, [], []⟩] := rfl
  obtain ⟨paths, read, drawn, returns⟩ :=
    kept_columns_drawn accepted collects List.mem_cons_self
  have samePaths : nestedPaths = paths := Except.ok.inj read
  obtain ⟨answer, emitted⟩ := returns rfl table Recorder.start unicode
  obtain ⟨tables, relations, same, leads⟩ :=
    drawn (Except Fault) hashedNaming table Recorder.start answer emitted
  refine ⟨tables, relations, ?_, leads _ (samePaths ▸ nestedPaths_kept) nestedForest_visible⟩
  rw [emitted, same]
  rfl

/-- A column of a name is declared by the fields of a model and is in none of its tables. -/
def LosesColumn (models : Mapping) (name : Scalar) (column : Text) : Prop :=
  ∃ paths model front, pathsOf models name = .ok paths ∧
    collectAll models [.scalar name] = .ok [model] ∧ Declares paths (front ++ [column]) ∧
    ∀ naming table, ¬ HasColumn (drawPurely naming model).tables table column

/-- A document that loses a column in each of the four ways. -/
def lossyDocument : Mapping :=
  let fieldsOf (fields : Mapping) : Value := .map [(.text "fields", .map fields)]
  let withColumn : Value := .map [(.text "schema", .map [(.text "b", .text "String")])]
  [(.text "models", .map
    [(.text "Replaced", fieldsOf
        [(.text "a.b", .text "String"),
          (.text "a", .map [(.text "schema", .map [(.text "c", .text "String")])])]),
      (.text "Scalar", fieldsOf [(.text "a.b", .text "String"), (.text "a", .text "String")]),
      (.text "Beside", fieldsOf
        [(.text "a", .map
          [(.text "type", .text "Array"), (.text "of", withColumn),
            (.text "schema", .map [(.text "c", .text "String")])])]),
      (.text "Element", fieldsOf
        [(.text "a", .map
          [(.text "type", .text "Array"),
            (.text "of", .map [(.text "type", .text "Array"), (.text "of", withColumn)])])])])]

theorem lossyDocument_loses :
    validate (.map lossyDocument) = .ok () ∧
      ∀ name ∈ (modelsOf lossyDocument).map Prod.fst,
        LosesColumn (modelsOf lossyDocument) name "b" := by
  refine ⟨rfl, ?_⟩
  show ∀ name ∈ [Scalar.text "Replaced", .text "Scalar", .text "Beside", .text "Element"], _
  simp only [List.forall_mem_cons]
  refine ⟨?_, ?_, ?_, ?_, by simp⟩
  · have columns (target : Text) : ((tablesOf "Replaced" [.container "a" "Embedded" .oneToOne target
        [.column "c" "String" none]]).flatMap fun drawn => drawn.columns.map Column.name) =
          [Text.ofString "a", Text.ofString "c"] := by
      simp [tablesOf, nestedTables, Field.toColumn]
    exact ⟨_, _, ["a"], rfl, rfl, .path List.mem_cons_self,
      fun naming => not_hasColumn (columns (naming "Replaced" "a")) (by decide)⟩
  · have columns : ((tablesOf "Scalar" [.column "a" "String" none]).flatMap fun drawn =>
        drawn.columns.map Column.name) = [Text.ofString "a"] := by
      simp [tablesOf, nestedTables, Field.toColumn]
    exact ⟨_, _, ["a"], rfl, rfl, .path List.mem_cons_self,
      fun naming => not_hasColumn columns (by decide)⟩
  · have columns (target : Text) : ((tablesOf "Beside" [.container "a" "Array" .oneToMany target
        [.column "c" "String" none]]).flatMap fun drawn => drawn.columns.map Column.name) =
          [Text.ofString "a", Text.ofString "c"] := by
      simp [tablesOf, nestedTables, Field.toColumn]
    exact ⟨_, _, ["a"], rfl, rfl,
      .nested List.mem_cons_self (.element .schema) (.path List.mem_cons_self),
      fun naming => not_hasColumn (columns (naming "Beside" "a")) (by decide)⟩
  · have columns (target inner : Text) : ((tablesOf "Element" [.container "a" "Array" .oneToMany
        target [.container "item" "Array" .oneToMany inner []]]).flatMap fun drawn =>
          drawn.columns.map Column.name) = [Text.ofString "a", Text.ofString "item"] := by
      simp [tablesOf, nestedTables, Field.toColumn]
    exact ⟨_, _, ["a", "item"], rfl, rfl,
      .nested List.mem_cons_self (.element (.item .schema)) (.path List.mem_cons_self),
      fun naming => not_hasColumn (columns (naming "Element" "a") _) (by decide)⟩

end EntityDiagram
