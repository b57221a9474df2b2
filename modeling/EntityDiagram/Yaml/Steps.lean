import EntityDiagram.Yaml.Fault

/-!
# Steps that end

The loops over a text and the grammar over its tokens are recursions with fuel.  They answer or end
with a fault, and have no outcome if their fuel is used up.  That this does not happen is carried
through them together with what is left to be read.
-/

namespace EntityDiagram.Yaml

/-- Steps that change what is left to be read. -/
abbrev Steps (σ α : Type) := StateT σ (ExceptT LoadFault Option) α

def outOfFuel {σ α : Type} : Steps σ α := fun _ => .mk none

/-- Steps end, and if they answer, then the answer and what is left are as they should be. -/
def Steps.Ends {σ α : Type} (steps : Steps σ α) (state : σ) (good : α → σ → Prop) : Prop :=
  ∃ outcome, (steps.run state).run = some outcome ∧
    ∀ answer later, outcome = .ok (answer, later) → good answer later

namespace Steps

variable {σ α β : Type} {state : σ} {steps : Steps σ α} {next : α → Steps σ β}
  {good weaker : α → σ → Prop} {fine : β → σ → Prop}

theorem Ends.bind (ends : steps.Ends state good)
    (goesOn : ∀ answer later, good answer later → (next answer).Ends later fine) :
    Ends (steps >>= next) state fine := by
  obtain ⟨outcome, runs, fits⟩ := ends
  cases outcome with
  | error fault => exact ⟨.error fault, by simp [ExceptT.run_bind, runs], nofun⟩
  | ok result =>
      obtain ⟨answer, later⟩ := result
      obtain ⟨outcome, goesOn, fits⟩ := goesOn answer later (fits answer later rfl)
      exact ⟨outcome, by simp [ExceptT.run_bind, runs, goesOn], fits⟩

theorem Ends.mono (ends : steps.Ends state good)
    (weakens : ∀ answer later, good answer later → weaker answer later) :
    steps.Ends state weaker :=
  let ⟨outcome, runs, fits⟩ := ends
  ⟨outcome, runs, fun answer later equal => weakens answer later (fits answer later equal)⟩

theorem Ends.pure {answer : α} (fits : good answer state) : Ends (pure answer) state good :=
  ⟨.ok (answer, state), rfl, fun _ _ equal => by cases equal; exact fits⟩

theorem Ends.throw (fault : LoadFault) : Ends (throw fault : Steps σ α) state good :=
  ⟨.error fault, rfl, nofun⟩

theorem Ends.discard (ends : steps.Ends state good) :
    Ends (discard steps) state fun _ later => ∃ answer, good answer later :=
  show Ends (steps >>= fun _ => Pure.pure PUnit.unit) state _ from
    ends.bind fun answer _ fits => .pure ⟨answer, fits⟩

theorem Ends.map {change : α → β} (ends : steps.Ends state good) :
    Ends (change <$> steps) state fun answer later =>
      ∃ before, good before later ∧ answer = change before := by
  rw [map_eq_pure_bind]
  exact ends.bind fun answer _ fits => .pure ⟨answer, fits, rfl⟩

theorem ends_get :
    Ends (get : Steps σ σ) state fun answer later => answer = state ∧ later = state :=
  ⟨.ok (state, state), rfl, by rintro _ _ ⟨⟩; exact ⟨rfl, rfl⟩⟩

theorem ends_set (changed : σ) :
    Ends (set changed : Steps σ Unit) state fun _ later => later = changed :=
  ⟨.ok ((), changed), rfl, by rintro _ _ ⟨⟩; rfl⟩

theorem ends_modify (change : σ → σ) :
    Ends (modify change : Steps σ Unit) state fun _ later => later = change state :=
  ⟨.ok ((), change state), rfl, by rintro _ _ ⟨⟩; rfl⟩

theorem ends_lift (result : Except LoadFault α) :
    Ends (liftM result : Steps σ α) state fun answer later =>
      result = .ok answer ∧ later = state := by
  cases result with
  | error fault => exact ⟨.error fault, rfl, nofun⟩
  | ok answer => exact ⟨.ok (answer, state), rfl, by rintro _ _ ⟨⟩; exact ⟨rfl, rfl⟩⟩

end Steps

end EntityDiagram.Yaml
