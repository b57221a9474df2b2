import EntityDiagram.Proofs.Document.Acceptance
import EntityDiagram.Proofs.Generation.Requested

/-!
# Runs in every order

A run whose models cannot be collected answers at once and changes no file.  Any other run answers
with what its variants come to, in every order of their turns.  The program itself draws them one
after the other.
-/

namespace EntityDiagram

open CommandLine (Request)

/-- The outcome of rendering a diagram to a path is given. -/
def renderingTo (outcome : Text → PathName → Except Failure (List UInt8)) : Rendering :=
  savingBy fun diagram path => .receive (outcome diagram path)

section

variable {m : Type → Type} [Monad m] [LawfulMonad m]

/-- The program's own order of turns, for any outcome of rendering. -/
theorem generate_renderingTo (world : World m) (request : Request) (stamp : Text)
    (source : StdGen) (outcome : Text → PathName → Except Failure (List UInt8)) :
    some <$> (generate world request stamp source (renderingTo outcome)).run =
      generateInTurns world request stamp source (renderingTo outcome) (oneByOne 7) :=
  generate_eq_generateInTurns world request stamp source (savingBy_brief _)

end

end EntityDiagram
