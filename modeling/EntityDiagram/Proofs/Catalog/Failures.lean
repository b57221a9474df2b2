import EntityDiagram.Proofs.Pipeline

/-!
# How models fail to be collected

A question about a model of an accepted document fails in two ways only.  The model is not there,
or a whole number with too many digits is a key directly under its fields.  The failure of a
collection is that of the first name without a model.
-/

namespace EntityDiagram

theorem modelEntries_eq_error_iff {models : Mapping} {name : Scalar} {failure : Failure} :
    modelEntries models name = .error failure ↔
      models.get? name = none ∧ failure = missingModel (.scalar name) := by
  unfold modelEntries
  cases models.get? name with
  | none => simp [eq_comm]
  | some value => cases value <;> simp

/-- The failure to collect the model of a name. -/
inductive ModelFailure (models : Mapping) : Value → Failure → Prop
  | unhashable {name : Value} (noKey : ∀ key, name ≠ .scalar key) :
      ModelFailure models name (.fault (.notKey name.typeName))
  | missing {name : Scalar} (absent : models.get? name = none) :
      ModelFailure models (.scalar name) (missingModel (.scalar name))
  | unreadable {name : Scalar} (present : models.get? name ≠ none)
      (unwritable : ¬ ReadableModel models name) :
      ModelFailure models (.scalar name) (.fault .tooManyDigits)

/-- Fields whose values can be written fail to be read only for one of their keys. -/
theorem flattenEntries_error {entries : Mapping} {front : Text} {fault : Fault}
    (fields : ∀ entry ∈ entries, Grammar.Field entry.2)
    (writable : ∀ entry ∈ entries, entry.2.isWritable = true)
    (failed : flattenEntries front entries = .error fault) : fault = .tooManyDigits := by
  induction entries with
  | nil => cases failed
  | cons entry entries ih =>
      -- A value that can be written is read, so only its key or the rest can be at fault.
      obtain ⟨field, restFields⟩ := List.forall_mem_cons.mp fields
      obtain ⟨valueWritable, restWritable⟩ := List.forall_mem_cons.mp writable
      rw [flattenEntries_cons, bind_eq_error_iff] at failed
      rcases failed with unwritten | ⟨name, -, failed⟩
      · unfold Scalar.written at unwritten
        split at unwritten <;> cases unwritten
        rfl
      · obtain ⟨here, read⟩ :=
          ((readsWell entry.2).field field (front ++ name)).answers valueWritable
        rw [read, bind_ok, bind_eq_error_iff] at failed
        rcases failed with restFailed | ⟨more, -, impossible⟩
        · exact ih restFields restWritable restFailed
        · cases impossible

section

variable {document : Mapping} (accepted : validate (.map document) = .ok ())

include accepted

theorem pathsOf_error {name : Scalar} {failure : Failure}
    (failed : pathsOf (modelsOf document) name = .error failure) :
    ModelFailure (modelsOf document) (.scalar name) failure := by
  have unread : ¬ ∃ paths, pathsOf (modelsOf document) name = .ok paths := by
    rintro ⟨paths, read⟩
    rw [failed] at read
    cases read
  rw [pathsOf_eq, bind_eq_error_iff] at failed
  rcases failed with noEntries | ⟨entries, found, failed⟩
  · obtain ⟨absent, rfl⟩ := modelEntries_eq_error_iff.mp noEntries
    exact .missing absent
  · have present : (modelsOf document).get? name ≠ none := by
      intro absent
      rw [modelEntries, absent] at found
      cases found
    have unreadable : ¬ ReadableModel (modelsOf document) name := by
      intro readable
      exact unread ((pathsOf_returns_iff accepted found).mpr (readable entries found))
    have sound := modelEntries_sound accepted found
    split at failed
    · next value filled =>
        obtain ⟨fields, rfl, declared, grammar⟩ := sound.filled_fields filled
        obtain ⟨fault, flattened, rfl⟩ := mapError_eq_error_iff.mp failed
        rw [flattenFields] at flattened
        rw [flattenEntries_error grammar (sound.writable fields declared) flattened]
        exact .unreadable present unreadable
    · cases failed

theorem pathsOf_eq_error_iff {name : Scalar} {failure : Failure} :
    pathsOf (modelsOf document) name = .error failure ↔
      ModelFailure (modelsOf document) (.scalar name) failure := by
  refine ⟨pathsOf_error accepted, fun fails => ?_⟩
  cases fails with
  | unhashable noKey => exact (noKey name rfl).elim
  | missing absent =>
      rw [pathsOf_eq, modelEntries_eq_error_iff.mpr ⟨absent, rfl⟩]
      rfl
  | unreadable present unwritable =>
      cases read : pathsOf (modelsOf document) name with
      | ok paths =>
          refine (unwritable fun entries found => ?_).elim
          exact (pathsOf_returns_iff accepted found).mp ⟨paths, read⟩
      | error failure =>
          cases pathsOf_error accepted read with
          | unhashable noKey => exact (noKey name rfl).elim
          | missing absent => exact (present absent).elim
          | unreadable => rfl

/-- The method names of a model fail to be read only if the model is missing. -/
theorem methodsOf_eq_error_iff {name : Scalar} {failure : Failure} :
    methodsOf (modelsOf document) name = .error failure ↔
      (modelsOf document).get? name = none ∧ failure = missingModel (.scalar name) := by
  rw [← modelEntries_eq_error_iff]
  cases found : modelEntries (modelsOf document) name with
  | error cause => simp [methodsOf, found, bind, Except.bind]
  | ok entries =>
      obtain ⟨methods, read⟩ := methodsOf_returns accepted found
      simp [read]

/-- A model fails to be collected exactly if its paths fail to be read. -/
theorem model_eq_error_iff {name : Value} {failure : Failure} :
    (providerOf (modelsOf document)).model .fault name = .error failure ↔
      ModelFailure (modelsOf document) name failure := by
  cases name with
  | scalar name =>
      rw [← pathsOf_eq_error_iff accepted]
      cases read : pathsOf (modelsOf document) name with
      | error cause =>
          have fails : (providerOf (modelsOf document)).model .fault (.scalar name) =
              .error cause := by
            simp [Provider.model, Value.asKey, providerOf, read, mapError_ok, bind, Except.bind]
          simp [fails]
      | ok paths =>
          obtain ⟨forest, built⟩ := (pathsOf_wellFormed accepted read).complete.buildForest
          obtain ⟨entries, found, -⟩ := bind_eq_ok_iff.mp ((pathsOf_eq _ _).symm.trans read)
          obtain ⟨methods, named⟩ := methodsOf_returns accepted found
          have collects : (providerOf (modelsOf document)).model .fault (.scalar name) =
              .ok ⟨name, forest, methods.instanceMethods, methods.staticMethods⟩ :=
            Provider.model_eq_ok_iff.mpr ⟨paths, forest, methods, read, built, named, rfl⟩
          simp [collects]
  | list _ | pair _ _ | set _ | map _ =>
      constructor
      · intro failed
        cases failed
        exact .unhashable (by simp)
      · intro fails
        cases fails
        rfl

end

/-- A collection fails with the failure of the first name that has one. -/
theorem Provider.collect_eq_some_iff {ε : Type} {provider : Provider ε} {ofFault : Fault → ε}
    {names : List Value} {failure : ε} :
    (provider.collect ofFault names).2 = some failure ↔
      ∃ before name after, names = before ++ name :: after ∧
        (∀ other ∈ before, ∃ model, provider.model ofFault other = .ok model) ∧
        provider.model ofFault name = .error failure := by
  induction names with
  | nil => simp [Provider.collect]
  | cons first names ih =>
      rw [Provider.collect]
      cases collected : provider.model ofFault first with
      | error cause =>
          simp only [Option.some.injEq]
          constructor
          · rintro rfl
            exact ⟨[], first, names, rfl, by simp, collected⟩
          · rintro ⟨_ | ⟨other, before⟩, name, after, same, earlier, failed⟩
            · cases same
              rw [collected] at failed
              exact Except.error.inj failed
            · cases same
              obtain ⟨model, found⟩ := earlier first List.mem_cons_self
              rw [collected] at found
              cases found
      | ok model =>
          refine ih.trans ⟨?_, ?_⟩
          · rintro ⟨before, name, after, rfl, earlier, failed⟩
            refine ⟨first :: before, name, after, rfl, ?_, failed⟩
            exact List.forall_mem_cons.mpr ⟨⟨model, collected⟩, earlier⟩
          · rintro ⟨_ | ⟨other, before⟩, name, after, same, earlier, failed⟩
            · cases same
              rw [collected] at failed
              cases failed
            · cases same
              exact ⟨before, name, after, rfl, (List.forall_mem_cons.mp earlier).2, failed⟩

theorem collectAll_eq_error_iff {models : Mapping} {names : List Value} {failure : Failure} :
    collectAll models names = .error failure ↔
      ∃ before name after, names = before ++ name :: after ∧
        (∀ other ∈ before, ∃ model, (providerOf models).model .fault other = .ok model) ∧
        (providerOf models).model .fault name = .error failure := by
  rw [← Provider.collect_eq_some_iff]
  unfold collectAll collectModels
  split
  · next found => simp [found]
  · next found => simp [found]

section

variable {document : Mapping} (accepted : validate (.map document) = .ok ())

include accepted

theorem model_returns_iff_not_failure {name : Value} :
    (∃ model, (providerOf (modelsOf document)).model .fault name = .ok model) ↔
      ∀ failure, ¬ ModelFailure (modelsOf document) name failure := by
  simp only [← model_eq_error_iff accepted]
  cases (providerOf (modelsOf document)).model .fault name <;> simp

/-- A collection from an accepted document fails for the first name whose model cannot be
collected. -/
theorem collectAll_fails_iff {names : List Value} {failure : Failure} :
    collectAll (modelsOf document) names = .error failure ↔
      ∃ before name after, names = before ++ name :: after ∧
        (∀ other ∈ before, ∀ earlier, ¬ ModelFailure (modelsOf document) other earlier) ∧
        ModelFailure (modelsOf document) name failure := by
  simp only [collectAll_eq_error_iff, model_returns_iff_not_failure accepted,
    model_eq_error_iff accepted]

end

end EntityDiagram
