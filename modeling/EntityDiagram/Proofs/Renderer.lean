import EntityDiagram.Renderer
import EntityDiagram.Proofs.FileSystem.Places
import EntityDiagram.Proofs.Outcome

/-!
# What the renderer leaves

The renderer is given its standard arguments and the bytes of a diagram.  An image is what it prints
when it exits with zero and prints something; otherwise there is an error, which says something.
-/

namespace EntityDiagram

/-- A program has left an image. -/
structure Completion.Succeeds (completion : Completion) : Prop where
  exitCode : completion.exitCode = 0
  stdout : completion.stdout ≠ []

namespace Renderer

theorem imageOf_eq_ok_iff {completion : Completion} {image : List UInt8} :
    imageOf completion = .ok image ↔ completion.Succeeds ∧ completion.stdout = image := by
  unfold imageOf
  constructor
  · intro left
    split at left
    · split at left <;> cases left
    · next exited =>
        split at left
        · cases left
        · next printed =>
            refine ⟨⟨by simpa using exited, ?_⟩, Except.ok.inj left⟩
            simpa using printed
  · rintro ⟨⟨exited, printed⟩, rfl⟩
    simp [exited, printed]

/-- A program that has left no image is reported with some message. -/
theorem imageOf_eq_error {completion : Completion} {error : RenderError}
    (failed : imageOf completion = .error error) : error.message ≠ [] := by
  unfold imageOf at failed
  split at failed
  · split at failed
    · cases failed
      simp [RenderError.message, Text.ofString, Text.ofChars]
    · next detail present =>
        cases failed
        exact fun isEmpty => present (List.map_eq_nil_iff.mp isEmpty)
  · split at failed
    · cases failed
      decide
    · cases failed

def standardWords : List Text :=
  ["--layout=elk", "--sketch=false", "--scale=1", "--pad=20", "--force-appendix", "--center",
    "-", "-"].map Text.ofString

/-- The arguments that a program gets with the standard options. -/
def standardArguments : List (List UInt8) :=
  standardWords.map Text.nameBytes

/-- A program that is found has a name that the system takes. -/
def CanRun (executable : Text) (program : Option Program) : Prop :=
  program.isSome = true → ∃ bytes, systemBytes executable = .ok bytes

theorem image_standard {executable diagram : Text} {program : Option Program}
    (canRun : CanRun executable program) {bytes : List UInt8}
    (encoded : Text.utf8Encode diagram = .ok bytes) :
    (Renderer.mk executable RenderOptions.standard).image program diagram =
      match program with
      | none => .error (.render (.rendererNotFound executable))
      | some program => (imageOf (program standardArguments bytes)).mapError .render := by
  cases program with
  | none => rfl
  | some program =>
      obtain ⟨name, named⟩ := canRun rfl
      have words : RenderOptions.standard.arguments = .ok standardWords := rfl
      have arguments : standardWords.mapM systemBytes = .ok standardArguments := rfl
      have command : (Renderer.mk executable RenderOptions.standard).command true =
          .ok (executable :: standardWords) := by
        rw [command, words]
        rfl
      have allBytes : (executable :: standardWords).mapM systemBytes =
          .ok (name :: standardArguments) := by
        rw [List.mapM_cons, named, arguments]
        rfl
      simp only [image, Option.isSome_some, command, bind_ok, allBytes, encoded, mapError_ok,
        List.drop_succ_cons, List.drop_zero]

/-- What a program that is found leaves behind, if it gets the standard options and an input. -/
def completion? (program : Option Program) (input : List UInt8) : Option Completion :=
  program.map fun program => program standardArguments input

section

variable {executable diagram : Text} {program : Option Program} {bytes : List UInt8}
  (canRun : CanRun executable program) (encoded : Text.utf8Encode diagram = .ok bytes)

include canRun encoded

theorem image_eq_ok_iff {image : List UInt8} :
    (Renderer.mk executable RenderOptions.standard).image program diagram = .ok image ↔
      ∃ completion, completion? program bytes = some completion ∧ completion.Succeeds ∧
        completion.stdout = image := by
  rw [image_standard canRun encoded]
  cases program with
  | none => simp [completion?]
  | some program => simp [completion?, mapError_eq_ok_iff, imageOf_eq_ok_iff]

/-- Without an image there is an error of the renderer, and it has a message. -/
theorem image_eq_error {failure : Failure}
    (failed : (Renderer.mk executable RenderOptions.standard).image program diagram =
      .error failure) :
    ∃ error : RenderError, failure = .render error ∧ error.message ≠ [] := by
  rw [image_standard canRun encoded] at failed
  cases program with
  | none =>
      cases failed
      exact ⟨_, rfl, by simp [RenderError.message, Text.ofString, Text.ofChars]⟩
  | some program =>
      dsimp only at failed
      cases left : imageOf (program standardArguments bytes) with
      | ok image =>
          rw [left] at failed
          cases failed
      | error error =>
          rw [left] at failed
          cases failed
          exact ⟨error, rfl, imageOf_eq_error left⟩

end

end Renderer

end EntityDiagram
