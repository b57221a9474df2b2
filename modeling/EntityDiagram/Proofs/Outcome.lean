/-!
# Steps that can fail

What a failing step answers, and under which condition it answers at all, are carried through a
computation side by side.
-/

namespace EntityDiagram

variable {ε α β : Type}

theorem bind_eq_ok_iff {step : Except ε α} {next : α → Except ε β} {answer : β} :
    (step >>= next) = .ok answer ↔ ∃ middle, step = .ok middle ∧ next middle = .ok answer := by
  cases step <;> simp [bind, Except.bind]

theorem bind_eq_error_iff {step : Except ε α} {next : α → Except ε β} {failure : ε} :
    (step >>= next) = .error failure ↔
      step = .error failure ∨ ∃ middle, step = .ok middle ∧ next middle = .error failure := by
  cases step <;> simp [bind, Except.bind]

theorem bind_ok {answer : α} {next : α → Except ε β} :
    ((.ok answer : Except ε α) >>= next) = next answer :=
  rfl

theorem map_ok {answer : α} {change : α → β} :
    change <$> (.ok answer : Except ε α) = .ok (change answer) :=
  rfl

theorem map_eq_ok_iff {step : Except ε α} {change : α → β} {answer : β} :
    (change <$> step) = .ok answer ↔ ∃ middle, step = .ok middle ∧ change middle = answer := by
  cases step <;> simp [Functor.map, Except.map]

theorem mapError_ok {ε' : Type} {answer : α} {change : ε → ε'} :
    (.ok answer : Except ε α).mapError change = .ok answer :=
  rfl

theorem mapError_error {ε' : Type} {cause : ε} {change : ε → ε'} :
    (.error cause : Except ε α).mapError change = .error (change cause) :=
  rfl

theorem mapError_eq_ok_iff {step : Except ε α} {change : ε → β} {answer : α} :
    step.mapError change = .ok answer ↔ step = .ok answer := by
  constructor <;> intro same <;> cases step <;> cases same <;> rfl

theorem mapError_eq_error_iff {ε' : Type} {step : Except ε α} {change : ε → ε'} {failure : ε'} :
    step.mapError change = .error failure ↔
      ∃ cause, step = .error cause ∧ change cause = failure := by
  cases step <;> simp [mapError_ok, mapError_error]

theorem discard_eq_ok_iff {step : Except ε α} :
    discard step = .ok () ↔ ∃ answer, step = .ok answer := by
  cases step <;> simp [discard, Functor.mapConst, Except.map]

theorem forM_eq_ok_iff {items : List α} {step : α → Except ε Unit} :
    items.forM step = .ok () ↔ ∀ item ∈ items, step item = .ok () := by
  induction items with
  | nil => simp [pure, Except.pure]
  | cons item items ih =>
      rw [List.forM_eq_forM] at ih ⊢
      rw [List.forM_cons, bind_eq_ok_iff, List.forall_mem_cons]
      simp only [ih]
      constructor
      · rintro ⟨⟨⟩, first, rest⟩
        exact ⟨first, rest⟩
      · rintro ⟨first, rest⟩
        exact ⟨(), first, rest⟩

/-- A step can return what it answers. -/
instance instMonadAttachExcept : MonadAttach (Except ε : Type → Type) where
  CanReturn step answer := step = .ok answer
  attach
    | .ok answer => .ok ⟨answer, rfl⟩
    | .error failure => .error failure

instance instLawfulMonadAttachExcept : LawfulMonadAttach (Except ε : Type → Type) where
  map_attach {_ step} := by
    cases step <;> rfl
  canReturn_map_imp {_ _ step _} returns := by
    have answers : Subtype.val <$> step = .ok _ := returns
    obtain ⟨answer, -, rfl⟩ := map_eq_ok_iff.mp answers
    exact answer.2

/-- A step gives good answers only, and when `enough` holds it gives one. -/
structure Yields (step : Except ε α) (enough : Prop) (good : α → Prop) : Prop where
  answers : enough → ∃ answer, step = .ok answer
  good : ∀ answer, step = .ok answer → good answer

namespace Yields

variable {enough stronger : Prop} {good : α → Prop} {better : β → Prop}

theorem ok {answer : α} (isGood : good answer) :
    Yields (.ok answer : Except ε α) enough good where
  answers _ := ⟨answer, rfl⟩
  good other equal := by
    cases equal
    exact isGood

theorem bind {step : Except ε α} {next : α → Except ε β} (first : Yields step enough good)
    (second : ∀ middle, good middle → Yields (next middle) enough better) :
    Yields (step >>= next) enough better where
  answers holds := by
    obtain ⟨middle, stepped⟩ := first.answers holds
    obtain ⟨answer, answered⟩ := (second middle (first.good middle stepped)).answers holds
    exact ⟨answer, bind_eq_ok_iff.mpr ⟨middle, stepped, answered⟩⟩
  good answer answered := by
    obtain ⟨middle, stepped, rest⟩ := bind_eq_ok_iff.mp answered
    exact (second middle (first.good middle stepped)).good answer rest

theorem map {step : Except ε α} {change : α → β} (first : Yields step enough good)
    (second : ∀ middle, good middle → better (change middle)) :
    Yields (change <$> step) enough better where
  answers holds := by
    obtain ⟨middle, stepped⟩ := first.answers holds
    exact ⟨change middle, map_eq_ok_iff.mpr ⟨middle, stepped, rfl⟩⟩
  good answer answered := by
    obtain ⟨middle, stepped, rfl⟩ := map_eq_ok_iff.mp answered
    exact second middle (first.good middle stepped)

/-- A condition that is stronger is enough as well. -/
theorem of_imp {step : Except ε α} (first : Yields step enough good)
    (implies : stronger → enough) : Yields step stronger good where
  answers holds := first.answers (implies holds)
  good := first.good

end Yields

end EntityDiagram
