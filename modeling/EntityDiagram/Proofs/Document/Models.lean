import EntityDiagram.Proofs.Document.Acceptance
import EntityDiagram.Proofs.Document.Reading
import EntityDiagram.Proofs.Document.Unicode

/-!
# Models of accepted documents

What an accepted document promises about each of its models: the fields are fields of the grammar,
the values of the fields can be written, and the method names are lists of texts.  So the method
names of a model can always be read, and its paths exactly when the keys of its fields can be
written, which no check asks for.
-/

namespace EntityDiagram

open Value (lookup?)

namespace Mapping

theorem exists_mem_of_get? {entries : Mapping} {key : Scalar} {value : Value}
    (found : entries.get? key = some value) : ∃ entry ∈ entries, entry.2 = value := by
  obtain ⟨entry, first, rfl⟩ := Option.map_eq_some_iff.mp found
  exact ⟨entry, List.mem_of_find?_eq_some first, rfl⟩

/-- Every key of a mapping is found. -/
theorem exists_get?_of_mem {entries : Mapping} {entry : Scalar × Value} (member : entry ∈ entries) :
    ∃ value, entries.get? entry.1 = some value := by
  have found : (entries.find? fun other => other.1.sameKey entry.1).isSome = true :=
    List.find?_isSome.mpr ⟨entry, member, by simp [Scalar.sameKey]⟩
  obtain ⟨first, found⟩ := Option.isSome_iff_exists.mp found
  exact ⟨first.2, by rw [get?, found, Option.map_some]⟩

end Mapping

/-- What acceptance promises about the entries of a model. -/
structure SoundModel (entries : Mapping) : Prop where
  fields : ∀ value, lookup? entries "fields" = some value → Grammar.Fields value
  methods : ∀ value, lookup? entries "methods" = some value → Grammar.Names value
  statics : ∀ value, lookup? entries "statics" = some value → Grammar.Names value
  writable : ∀ fields, lookup? entries "fields" = some (.map fields) →
    ∀ entry ∈ fields, entry.2.isWritable = true

/-- The keys directly under the fields of a model can be written. -/
def WritableKeys (entries : Mapping) : Prop :=
  ∀ fields, lookup? entries "fields" = some (.map fields) →
    ∀ entry ∈ fields, entry.1.isWritable = true

theorem SoundModel.nil : SoundModel [] := by
  constructor <;> simp

theorem Grammar.Kind.isWritable {kind : Value} (known : Grammar.Kind kind) :
    kind.isWritable = true := by
  obtain ⟨name, _, rfl⟩ := known
  rfl

/-! ### Models of a document -/

section

variable {document : Mapping}

/-- The models of an accepted document are those of the grammar. -/
theorem models_accepted (accepted : validate (.map document) = .ok ()) :
    lookup? document "models" = some (.map (modelsOf document)) ∧
      ∀ entry ∈ modelsOf document, Grammar.Model entry.2 := by
  obtain ⟨⟨value, found, models⟩, -⟩ := validate_eq_ok_iff.mp accepted
  cases models with
  | @mk entries nonempty models =>
      have same : modelsOf document = entries := by
        simp [modelsOf, found]
      rw [same]
      exact ⟨found, models⟩

theorem fieldValues_writable (accepted : validate (.map document) = .ok ())
    {entry : Scalar × Value} (member : entry ∈ modelsOf document) {value : Value}
    (field : value ∈ fieldValues entry.2) : value.isWritable = true := by
  obtain ⟨-, written⟩ := validate_eq_ok_iff.mp accepted
  have inDocument : value ∈ documentFields (.map document) := by
    rw [documentFields, (models_accepted accepted).1]
    exact List.mem_flatMap.mpr ⟨entry, member, field⟩
  exact (written value inDocument).elim Grammar.Kind.isWritable id

theorem modelEntries_sound (accepted : validate (.map document) = .ok ()) {name : Scalar}
    {entries : Mapping} (found : modelEntries (modelsOf document) name = .ok entries) :
    SoundModel entries := by
  unfold modelEntries at found
  split at found
  · next model listed =>
      cases found
      obtain ⟨entry, member, same⟩ := Mapping.exists_mem_of_get? listed
      have model := (models_accepted accepted).2 entry member
      rw [same] at model
      cases model with
      | entries known fields methods statics =>
          refine ⟨fields, methods, statics, fun inner declared field inFields => ?_⟩
          apply fieldValues_writable accepted member
          rw [same, fieldValues, declared]
          exact List.mem_map_of_mem inFields
  · cases found
    exact .nil
  · cases found

/-- A name that is listed is that of a model. -/
theorem modelEntries_returns {models : Mapping} {name : Scalar}
    (listed : name ∈ models.map Prod.fst) : ∃ entries, modelEntries models name = .ok entries := by
  obtain ⟨entry, member, rfl⟩ := List.mem_map.mp listed
  obtain ⟨value, found⟩ := Mapping.exists_get?_of_mem member
  rw [modelEntries, found]
  split
  · exact ⟨_, rfl⟩
  · exact ⟨[], rfl⟩
  · contradiction

end

/-! ### Paths -/

/-- The fields of a model that are read are those of a mapping. -/
theorem SoundModel.filled_fields {entries : Mapping} (sound : SoundModel entries) {value : Value}
    (filled : filledEntry entries "fields" = some value) :
    ∃ fields, value = .map fields ∧ lookup? entries "fields" = some (.map fields) ∧
      ∀ entry ∈ fields, Grammar.Field entry.2 := by
  obtain ⟨declared, truthy⟩ := Option.filter_eq_some_iff.mp filled
  cases sound.fields value declared with
  | null => cases truthy
  | @entries fields accepted => exact ⟨fields, rfl, declared, accepted⟩

theorem keys_writable_of_flattened {front : Text} {entries : Mapping} {paths : Paths}
    (flattened : flattenEntries front entries = .ok paths) :
    ∀ entry ∈ entries, entry.1.isWritable = true := by
  induction entries generalizing paths with
  | nil => simp
  | cons entry entries ih =>
      rw [flattenEntries_cons] at flattened
      obtain ⟨name, written, flattened⟩ := bind_eq_ok_iff.mp flattened
      obtain ⟨here, -, flattened⟩ := bind_eq_ok_iff.mp flattened
      obtain ⟨more, readMore, -⟩ := bind_eq_ok_iff.mp flattened
      rintro other (_ | ⟨_, member⟩)
      · unfold Scalar.written at written
        split at written
        · next writable => exact writable
        · cases written
      · exact ih readMore other member

/-- The paths of a model are read from its entries. -/
theorem pathsOf_eq (models : Mapping) (name : Scalar) :
    pathsOf models name = modelEntries models name >>= fun entries =>
      match filledEntry entries "fields" with
      | some fields => (flattenFields "" fields).mapError .fault
      | none => .ok [] :=
  rfl

section

variable {document : Mapping} (accepted : validate (.map document) = .ok ()) {name : Scalar}

include accepted

/-- All paths that are read from an accepted document are well formed. -/
theorem pathsOf_wellFormed {paths : Paths} (read : pathsOf (modelsOf document) name = .ok paths) :
    WellFormedPaths paths := by
  rw [pathsOf_eq] at read
  obtain ⟨entries, found, read⟩ := bind_eq_ok_iff.mp read
  split at read
  · next value filled =>
      obtain ⟨fields, rfl, declared, grammar⟩ :=
        (modelEntries_sound accepted found).filled_fields filled
      rw [mapError_eq_ok_iff] at read
      exact ((readsWell (.map fields)).entries fields rfl grammar "").good paths read
  · cases read
    simp [WellFormedPaths]

/-- The paths of a model can be read exactly when the keys of its fields can be written. -/
theorem pathsOf_returns_iff {entries : Mapping}
    (found : modelEntries (modelsOf document) name = .ok entries) :
    (∃ paths, pathsOf (modelsOf document) name = .ok paths) ↔ WritableKeys entries := by
  have sound := modelEntries_sound accepted found
  simp only [pathsOf_eq, found, bind, Except.bind]
  split
  · next value filled =>
      obtain ⟨fields, rfl, declared, grammar⟩ := sound.filled_fields filled
      simp only [mapError_eq_ok_iff]
      constructor
      · rintro ⟨paths, read⟩ others same
        obtain rfl : fields = others := by simpa [declared] using same
        rw [flattenFields] at read
        exact keys_writable_of_flattened read
      · intro keys
        refine ((readsWell (.map fields)).entries fields rfl grammar "").answers ?_
        exact isWritable_map_iff.mpr fun entry member =>
          ⟨keys fields declared entry member, sound.writable fields declared entry member⟩
  · next empty =>
      refine ⟨fun _ fields declared entry member => ?_, fun _ => ⟨[], rfl⟩⟩
      have filled : filledEntry entries "fields" = some (.map fields) := by
        refine Option.filter_eq_some_iff.mpr ⟨declared, ?_⟩
        cases fields with
        | nil => cases member
        | cons => rfl
      rw [empty] at filled
      cases filled

omit accepted in
theorem methodNames_returns {entries : Mapping} {key : Text}
    (names : ∀ value, lookup? entries key = some value → Grammar.Names value) :
    ∃ items, methodNames entries key = .ok items := by
  unfold methodNames
  split
  · next value filled =>
      obtain ⟨declared, truthy⟩ := Option.filter_eq_some_iff.mp filled
      cases names value declared with
      | null => cases truthy
      | @list items texts => exact ⟨items, rfl⟩
  · exact ⟨[], rfl⟩

/-- The method names of a model can always be read. -/
theorem methodsOf_returns {entries : Mapping}
    (found : modelEntries (modelsOf document) name = .ok entries) :
    ∃ methods, methodsOf (modelsOf document) name = .ok methods := by
  have sound := modelEntries_sound accepted found
  obtain ⟨instanceMethods, readInstance⟩ := methodNames_returns sound.methods
  obtain ⟨staticMethods, readStatic⟩ := methodNames_returns sound.statics
  refine ⟨⟨instanceMethods, staticMethods⟩, ?_⟩
  simp [methodsOf, found, readInstance, readStatic, bind, Except.bind, pure, Except.pure]

end

/-! ### Growth -/

/-- A well-formed descriptor misses nothing. -/
theorem Descriptor.WellFormed.complete {descriptor : Descriptor}
    (wellFormed : descriptor.WellFormed) : descriptor.Complete := by
  induction wellFormed with
  | typed known ref nested isArray inner nestedComplete innerComplete =>
      exact .typed (fun _ _ _ _ => trivial) nestedComplete innerComplete

theorem WellFormedPaths.complete {paths : Paths} (wellFormed : WellFormedPaths paths) :
    CompletePaths paths :=
  fun entry member => (wellFormed entry member).complete

/-! ### Texts -/

theorem isUnicode_lookup? {entries : Mapping} (unicode : (Value.map entries).isUnicode = true)
    {key : Text} {value : Value} (found : lookup? entries key = some value) :
    value.isUnicode = true :=
  (Value.isUnicode_map_iff.mp unicode _ (Value.mem_of_lookup? found)).2

theorem isUnicode_modelsOf {document : Mapping} (unicode : (Value.map document).isUnicode = true) :
    (Value.map (modelsOf document)).isUnicode = true := by
  unfold modelsOf
  split
  · next models found => exact isUnicode_lookup? unicode found
  · rfl

theorem isUnicode_modelEntries {models : Mapping} (unicode : (Value.map models).isUnicode = true)
    {name : Scalar} {entries : Mapping} (found : modelEntries models name = .ok entries) :
    (Value.map entries).isUnicode = true := by
  unfold modelEntries at found
  split at found
  · next listed =>
      cases found
      obtain ⟨entry, member, same⟩ := Mapping.exists_mem_of_get? listed
      rw [← same]
      exact (Value.isUnicode_map_iff.mp unicode entry member).2
  · cases found
    rfl
  · cases found

theorem pathsOf_unicode {models : Mapping} (unicode : (Value.map models).isUnicode = true)
    {name : Scalar} {paths : Paths} (read : pathsOf models name = .ok paths) :
    UnicodePaths paths := by
  rw [pathsOf_eq] at read
  obtain ⟨entries, found, read⟩ := bind_eq_ok_iff.mp read
  split at read
  · next value filled =>
      obtain ⟨declared, -⟩ := Option.filter_eq_some_iff.mp filled
      have valueUnicode := isUnicode_lookup? (isUnicode_modelEntries unicode found) declared
      rw [mapError_eq_ok_iff] at read
      exact (readsUnicode valueUnicode).fields "" (by simp) paths read
  · cases read
    simp [UnicodePaths]

end EntityDiagram
