import EntityDiagram.Catalog
import EntityDiagram.Proofs.Outcome

/-!
# Collecting models

A collection without a failure has one model for each name, in the order of the names, and each
model is what the provider has under its name.  A catalog answers from the models of the document
that it has loaded, or loads it first.
-/

namespace EntityDiagram

section

variable {ε : Type} {provider : Provider ε} {ofFault : Fault → ε}

/-- A model is collected from its paths and its method names. -/
theorem Provider.model_eq_ok_iff {name : Scalar} {model : EntityModel} :
    provider.model ofFault (.scalar name) = .ok model ↔
      ∃ paths forest methods, provider.paths name = .ok paths ∧ buildForest paths = .ok forest ∧
        provider.methods name = .ok methods ∧
        model = ⟨name, forest, methods.instanceMethods, methods.staticMethods⟩ := by
  have unfolded : provider.model ofFault (.scalar name) =
      provider.paths name >>= fun paths =>
        (buildForest paths).mapError ofFault >>= fun forest =>
          provider.methods name >>= fun methods =>
            .ok ⟨name, forest, methods.instanceMethods, methods.staticMethods⟩ := rfl
  simp only [unfolded, bind_eq_ok_iff, mapError_eq_ok_iff, Except.ok.injEq]
  constructor
  · rintro ⟨paths, read, forest, built, methods, named, rfl⟩
    exact ⟨paths, forest, methods, read, built, named, rfl⟩
  · rintro ⟨paths, forest, methods, read, built, named, rfl⟩
    exact ⟨paths, read, forest, built, methods, named, rfl⟩

/-- Only a scalar is the name of a model, which bears it. -/
theorem Provider.model_name {name : Value} {model : EntityModel}
    (collected : provider.model ofFault name = .ok model) : name = .scalar model.name := by
  cases name with
  | scalar key =>
      obtain ⟨_, _, _, _, _, _, rfl⟩ := Provider.model_eq_ok_iff.mp collected
      rfl
  | list _ | pair _ _ | set _ | map _ => cases collected

theorem Provider.collect_cons_eq_iff {name : Value} {names : List Value}
    {collected : List EntityModel} :
    provider.collect ofFault (name :: names) = (collected, none) ↔
      ∃ model models, provider.model ofFault name = .ok model ∧
        provider.collect ofFault names = (models, none) ∧ collected = model :: models := by
  rw [Provider.collect]
  cases provider.model ofFault name with
  | error failure => simp
  | ok model =>
      obtain ⟨models, failure⟩ := provider.collect ofFault names
      cases failure <;> simp [eq_comm]

theorem Provider.collect_returns_iff {names : List Value} :
    (∃ collected, provider.collect ofFault names = (collected, none)) ↔
      ∀ name ∈ names, ∃ model, provider.model ofFault name = .ok model := by
  induction names with
  | nil => exact ⟨fun _ => by simp, fun _ => ⟨[], rfl⟩⟩
  | cons name names ih =>
      simp only [List.forall_mem_cons, ← ih, Provider.collect_cons_eq_iff]
      constructor
      · rintro ⟨_, model, models, first, rest, rfl⟩
        exact ⟨⟨model, first⟩, models, rest⟩
      · rintro ⟨⟨model, first⟩, models, rest⟩
        exact ⟨_, model, models, first, rest, rfl⟩

/-- The models of a collection are those of its names. -/
theorem Provider.collect_sound {names : List Value} {collected : List EntityModel}
    (collects : provider.collect ofFault names = (collected, none)) :
    names = collected.map (fun model => .scalar model.name) ∧
      ∀ model ∈ collected, provider.model ofFault (.scalar model.name) = .ok model := by
  induction names generalizing collected with
  | nil =>
      cases collects
      simp
  | cons name names ih =>
      obtain ⟨model, models, first, rest, rfl⟩ := Provider.collect_cons_eq_iff.mp collects
      obtain ⟨restNames, restModels⟩ := ih rest
      obtain rfl := Provider.model_name first
      rw [restNames, List.map_cons]
      exact ⟨rfl, List.forall_mem_cons.mpr ⟨first, restModels⟩⟩

end

theorem collectAll_eq_ok_iff {models : Mapping} {names : List Value}
    {collected : List EntityModel} :
    collectAll models names = .ok collected ↔
      (providerOf models).collect .fault names = (collected, none) := by
  unfold collectAll collectModels
  split
  · next failed => simp [failed]
  · next found => simp [found]

namespace Catalog

/-- A catalog that has loaded the models of a document, or finds the document when it loads. -/
def Serves (catalog : Catalog) (found : Found) (document : Mapping) : Prop :=
  catalog.models = some (modelsOf document) ∨
    catalog.models = none ∧ readDocument catalog.path found = .ok document

section

variable {catalog : Catalog} {found : Found} {document : Mapping}
  (serves : catalog.Serves found document) (accepted : validate (.map document) = .ok ())

include serves accepted

theorem ensure_of_serves :
    catalog.ensure found =
      (.ok (modelsOf document), { catalog with models := some (modelsOf document) }) := by
  unfold ensure
  rcases serves with loaded | ⟨unloaded, read⟩
  · simp only [loaded]
    rw [← loaded]
  · have models : readModels catalog.path found = .ok (modelsOf document) := by
      simp [readModels, read, validModels, accepted, bind, Except.bind, pure, Except.pure]
    rw [unloaded]
    simp only [load, models]

/-- What is asked about a name is answered from the models of the document. -/
theorem askAbout_of_serves {α : Type} (name : Value) (question : Mapping → Except Failure α) :
    (catalog.askAbout found name question).1 = question (modelsOf document) := by
  rw [askAbout, ensure_of_serves serves accepted]

theorem collect_of_serves (names : List Value) :
    (catalog.collect found names).1 = collectAll (modelsOf document) names := by
  cases names with
  | nil => rfl
  | cons name names => exact askAbout_of_serves serves accepted name _

end

end Catalog

end EntityDiagram
