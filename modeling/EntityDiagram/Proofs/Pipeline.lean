import EntityDiagram.Proofs.Collection
import EntityDiagram.Proofs.Diagram.Hashed
import EntityDiagram.Proofs.Document.Models

/-!
# From accepted documents to diagrams

Reading, collecting and rendering check nothing themselves; they rely on the checks of the format.
This file proves how far they can: the models of an accepted document are collected and rendered,
unless a whole number with too many digits stands for the name of a model or for a key directly
under its fields.  The main statement is `pipeline_returns_iff`.
-/

namespace EntityDiagram

/-- A model whose paths can be read, as far as its name is that of one. -/
def ReadableModel (models : Mapping) (name : Scalar) : Prop :=
  ∀ entries, modelEntries models name = .ok entries → WritableKeys entries

section

variable {document : Mapping} (accepted : validate (.map document) = .ok ())

include accepted

theorem pathsOf_listed_iff {name : Scalar} (listed : name ∈ (modelsOf document).map Prod.fst) :
    (∃ paths, pathsOf (modelsOf document) name = .ok paths) ↔
      ReadableModel (modelsOf document) name := by
  obtain ⟨entries, found⟩ := modelEntries_returns listed
  rw [pathsOf_returns_iff accepted found]
  constructor
  · intro writable others same
    rw [found] at same
    cases same
    exact writable
  · exact fun readable => readable entries found

/-- A model is collected when its paths can be read: these are well formed, so they grow. -/
theorem model_returns_iff {name : Scalar} (listed : name ∈ (modelsOf document).map Prod.fst) :
    (∃ model, (providerOf (modelsOf document)).model .fault (.scalar name) = .ok model) ↔
      ReadableModel (modelsOf document) name := by
  rw [← pathsOf_listed_iff accepted listed]
  simp only [Provider.model_eq_ok_iff]
  constructor
  · rintro ⟨_, paths, _, _, read, -⟩
    exact ⟨paths, read⟩
  · rintro ⟨paths, read⟩
    obtain ⟨forest, built⟩ := (pathsOf_wellFormed accepted read).complete.buildForest
    obtain ⟨entries, found⟩ := modelEntries_returns listed
    obtain ⟨methods, named⟩ := methodsOf_returns accepted found
    exact ⟨_, paths, forest, methods, read, built, named, rfl⟩

theorem collectAll_returns_iff {names : List Scalar}
    (listed : ∀ name ∈ names, name ∈ (modelsOf document).map Prod.fst) :
    (∃ collected, collectAll (modelsOf document) (names.map .scalar) = .ok collected) ↔
      ∀ name ∈ names, ReadableModel (modelsOf document) name := by
  simp only [collectAll_eq_ok_iff, Provider.collect_returns_iff, List.forall_mem_map]
  exact forall₂_congr fun name member => model_returns_iff accepted (listed name member)

end

/-- Collected models have no surrogates in their names when the document has none. -/
theorem collectAll_unicode {document : Mapping} (unicode : (Value.map document).isUnicode = true)
    {names : List Scalar} (listed : ∀ name ∈ names, name ∈ (modelsOf document).map Prod.fst)
    {collected : List EntityModel}
    (collects : collectAll (modelsOf document) (names.map .scalar) = .ok collected) :
    names = collected.map EntityModel.name ∧ ∀ model ∈ collected, model.Unicode := by
  have modelsUnicode := isUnicode_modelsOf unicode
  obtain ⟨sameNames, sound⟩ := Provider.collect_sound (collectAll_eq_ok_iff.mp collects)
  have same : names = collected.map EntityModel.name := by
    refine (List.map_inj_right fun _ _ => Value.scalar.inj).mp ?_
    rw [sameNames, List.map_map]
    rfl
  refine ⟨same, fun model member => ⟨?_, ?_⟩⟩
  · have inNames : model.name ∈ names := by
      rw [same]
      exact List.mem_map_of_mem member
    obtain ⟨entry, inModels, named⟩ := List.mem_map.mp (listed model.name inNames)
    rw [← named]
    exact (Value.isUnicode_map_iff.mp modelsUnicode entry inModels).1
  · obtain ⟨paths, forest, methods, read, built, -, grown⟩ :=
      Provider.model_eq_ok_iff.mp (sound model member)
    rw [grown]
    exact (pathsOf_unicode modelsUnicode read).buildForest built

/-- What the rest of the pipeline does with the models of an accepted document without
surrogates.  Paths that are read are well formed; they are read, and models are collected, exactly
if the keys directly under the fields can be written; method names are always read; and collected
models are rendered exactly if their names can be written. -/
theorem pipeline_returns_iff {document : Mapping} (accepted : validate (.map document) = .ok ())
    (unicode : (Value.map document).isUnicode = true) {catalog : Catalog} {found : Found}
    (serves : catalog.Serves found document) {names : List Scalar}
    (listed : ∀ name ∈ names, name ∈ (modelsOf document).map Prod.fst) :
    (∀ name paths, (catalog.paths found name).1 = .ok paths → WellFormedPaths paths) ∧
    (∀ name ∈ names,
      ((∃ paths, (catalog.paths found (.scalar name)).1 = .ok paths) ↔
        ReadableModel (modelsOf document) name) ∧
      ∃ methods, (catalog.methods found (.scalar name)).1 = .ok methods) ∧
    ((∃ collected, (catalog.collect found (names.map .scalar)).1 = .ok collected) ↔
      ∀ name ∈ names, ReadableModel (modelsOf document) name) ∧
    ∀ collected, (catalog.collect found (names.map .scalar)).1 = .ok collected →
      (∀ recorder, (∃ drawn, Recorder.render hashedNaming collected recorder = .ok drawn) ↔
        ∀ name ∈ names, name.isWritable = true) ∧
      ((∃ text, writeMinimal collected = .ok text) ↔
        ∀ name ∈ names, name.isWritable = true) := by
  simp only [Catalog.paths, Catalog.methods, Catalog.collect_of_serves serves accepted,
    Catalog.askAbout_of_serves serves accepted]
  refine ⟨?_, ?_, collectAll_returns_iff accepted listed, ?_⟩
  · intro name paths read
    obtain ⟨key, -, read⟩ := bind_eq_ok_iff.mp read
    exact pathsOf_wellFormed accepted read
  · intro name member
    refine ⟨pathsOf_listed_iff accepted (listed name member), ?_⟩
    obtain ⟨entries, entriesFound⟩ := modelEntries_returns (listed name member)
    exact methodsOf_returns accepted entriesFound
  · intro collected collects
    obtain ⟨same, modelsUnicode⟩ := collectAll_unicode unicode listed collects
    rw [same, List.forall_mem_map]
    exact ⟨render_hashed_iff modelsUnicode, writeMinimal_iff⟩

/-- A document with a reference, a group and an array of arrays. -/
def smallDocument : Mapping :=
  [(.text "models", .map
    [(.text "Post", .map
      [(.text "fields", .map
        [(.text "author", .map [(.text "type", .text "ObjectID"), (.text "ref", .text "User")]),
          (.text "meta", .map [(.text "likes", .text "Number")]),
          (.text "grid", .map
            [(.text "type", .text "Array"), (.text "of", .map [(.text "type", .text "Array")])])]),
        (.text "methods", .list [.text "publish"])]),
      (.text "User", .null)])]

theorem smallDocument_rendered :
    validate (.map smallDocument) = .ok () ∧ (Value.map smallDocument).isUnicode = true ∧
      ∃ collected, collectAll (modelsOf smallDocument) [.text "Post"] = .ok collected ∧
        (∃ drawn, Recorder.render hashedNaming collected Recorder.start = .ok drawn) ∧
        ∃ text, writeMinimal collected = .ok text := by
  have accepted : validate (.map smallDocument) = .ok () := rfl
  have unicode : (Value.map smallDocument).isUnicode = true := rfl
  have serves : (Catalog.mk ⟨[], []⟩ (some (modelsOf smallDocument))).Serves .nothing
      smallDocument := .inl rfl
  have listed : ∀ name ∈ [Scalar.text "Post"],
      name ∈ (modelsOf smallDocument).map Prod.fst := by
    decide
  obtain ⟨-, -, collected, rendered⟩ := pipeline_returns_iff accepted unicode serves listed
  have readable : ∀ name ∈ [Scalar.text "Post"],
      ReadableModel (modelsOf smallDocument) name := by
    intro name member
    obtain rfl := List.mem_singleton.mp member
    exact (pathsOf_listed_iff accepted (listed _ member)).mp ⟨_, rfl⟩
  obtain ⟨models, collects⟩ := collected.mpr readable
  obtain ⟨full, minimal⟩ := rendered models collects
  exact ⟨accepted, unicode, models, collects, (full _).mpr (by decide), minimal.mpr (by decide)⟩

/-- An accepted document with a key that cannot be written directly under the fields. -/
def unwritableFieldDocument : Mapping :=
  [(.text "models", .map [(.text "A", .map [(.text "fields",
    .map [(unwritableKey, .text "String")])])])]

/-- Acceptance alone does not let the paths of a model be read. -/
theorem unwritableFieldDocument_fails :
    validate (.map unwritableFieldDocument) = .ok () ∧
      (Value.map unwritableFieldDocument).isUnicode = true ∧
      .text "A" ∈ (modelsOf unwritableFieldDocument).map Prod.fst ∧
      pathsOf (modelsOf unwritableFieldDocument) (.text "A") =
        .error (.fault .tooManyDigits) ∧
      ∀ collected, collectAll (modelsOf unwritableFieldDocument) [.text "A"] ≠ .ok collected := by
  have unwritten : unwritableKey.written = .error .tooManyDigits := by
    simp [Scalar.written, unwritableKey_not_writable]
  have fails : pathsOf (modelsOf unwritableFieldDocument) (.text "A") =
      .error (.fault .tooManyDigits) := by
    have found : modelEntries (modelsOf unwritableFieldDocument) (.text "A") =
        .ok [(.text "fields", .map [(unwritableKey, .text "String")])] := rfl
    have filled : filledEntry [(.text "fields", .map [(unwritableKey, .text "String")])] "fields" =
        some (.map [(unwritableKey, .text "String")]) := rfl
    rw [pathsOf_eq, found, bind_ok, filled]
    simp only
    rw [flattenFields, flattenEntries_cons, unwritten]
    rfl
  refine ⟨rfl, rfl, by decide, fails, fun collected collects => ?_⟩
  obtain ⟨model, found⟩ := Provider.collect_returns_iff.mp
    ⟨collected, collectAll_eq_ok_iff.mp collects⟩ (.text "A") List.mem_cons_self
  obtain ⟨paths, -, -, read, -⟩ := Provider.model_eq_ok_iff.mp found
  have readOk : pathsOf (modelsOf unwritableFieldDocument) (.text "A") = .ok paths := read
  rw [fails] at readOk
  cases readOk

end EntityDiagram
