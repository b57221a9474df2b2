import EntityDiagram.CommandLine.Program
import EntityDiagram.Proofs.Generation.Independence
import EntityDiagram.Proofs.Generation.Requested
import EntityDiagram.Proofs.Renderer

/-!
# What the exit code says

The exit code is zero exactly if the models were collected and the renderer left an image of both
diagrams, and then both images are saved.  A failure that is reported gives the exit code one.
-/

namespace EntityDiagram

open CommandLine (Request Ending execute exitCode parseArguments runRequest)

section

variable {program : Text → StateM Scene (Option Program)} {request : Request} {stamp : Text}
  {source : StdGen} {scene : Scene}

/-- A program is found, and it leaves an image. -/
def LeavesImage (program : Option Program) (input : List UInt8) : Prop :=
  ∃ completion, Renderer.completion? program input = some completion ∧ completion.Succeeds

theorem run_exitCode (program : Text → StateM Scene (Option Program))
    (result : Except Failure (List PathName)) (scene : Scene) :
    (exitCode (Scene.worldWith program) result).run scene =
      match result with
      | .ok _ => (.ok 0, scene)
      | .error failure =>
          if failure.isReported then
            (.ok 1, { scene with logged := scene.logged ++ [.failed failure] })
          else (.error failure, scene) := by
  unfold exitCode
  cases result with
  | ok paths => rfl
  | error failure =>
      dsimp only
      cases failure.isReported <;> rfl

theorem requestedRendering_eq {executable : Text} (given : request.executable = some executable) :
    requestedRendering request =
      savingBy fun diagram _ => .render ⟨executable, RenderOptions.standard⟩ diagram := by
  rw [requestedRendering, given]
  rfl

/-- A run is made of generating the diagrams and of saying how that went. -/
theorem run_execute {arguments : List Text} (accepted : parseArguments arguments = .ok request)
    (program : Text → StateM Scene (Option Program)) :
    (execute (Scene.worldWith program) arguments stamp source).run scene =
      let generated := (generate (Scene.worldWith program) request stamp source
        (requestedRendering request)).run.run scene
      let ended := (exitCode (Scene.worldWith program) generated.1).run generated.2
      (.run ended.1, ended.2) := by
  rw [execute, accepted]
  rfl

end

section

variable {programs : Text → Option Program} {executable : Text}

/-- A variant answers its path if the renderer leaves an image, or else an error of the renderer. -/
theorem variantAnswer_rendered (canRun : Renderer.CanRun executable (programs executable))
    {path : PathName} {text : Text} {input : List UInt8}
    (encoded : Text.utf8Encode text = .ok input)
    (outcome : Text → Except Failure (List UInt8))
    (renders : outcome =
      (Renderer.mk executable RenderOptions.standard).image (programs executable)) :
    (LeavesImage (programs executable) input ∧
      variantAnswer path (.ok text) outcome = .ok path) ∨
    (¬ LeavesImage (programs executable) input ∧ ∃ error : RenderError,
      variantAnswer path (.ok text) outcome = .error (.render error) ∧ error.message ≠ []) := by
  subst renders
  have answer : variantAnswer path (.ok text)
      ((Renderer.mk executable RenderOptions.standard).image (programs executable)) =
        (Renderer.mk executable RenderOptions.standard).image (programs executable) text >>=
          fun _ => .ok path :=
    rfl
  rw [answer]
  cases rendered : (Renderer.mk executable RenderOptions.standard).image (programs executable)
      text with
  | ok image =>
      obtain ⟨completion, left, succeeds, -⟩ :=
        (Renderer.image_eq_ok_iff canRun encoded).mp rendered
      exact .inl ⟨⟨completion, left, succeeds⟩, rfl⟩
  | error failure =>
      obtain ⟨error, rfl, worded⟩ := Renderer.image_eq_error canRun encoded rendered
      refine .inr ⟨?_, error, rfl, worded⟩
      rintro ⟨completion, left, succeeds⟩
      rw [(Renderer.image_eq_ok_iff canRun encoded).mpr ⟨completion, left, succeeds, rfl⟩]
        at rendered
      cases rendered

/-- The run has an answer if both variants have one, and otherwise an error of the renderer. -/
theorem combine_rendered {answers : Variant → Except Failure PathName} {leaves : Variant → Prop}
    (each : ∀ variant, (leaves variant ∧ ∃ path, answers variant = .ok path) ∨
      (¬ leaves variant ∧ ∃ error, answers variant = .error (.render error))) :
    ((∃ paths, combine (answers .minimal) (answers .full) = .ok paths) ∧
      ∀ variant, leaves variant) ∨
    ((∃ error, combine (answers .minimal) (answers .full) = .error (.render error)) ∧
      ¬ ∀ variant, leaves variant) := by
  rcases each .minimal with ⟨minimalLeft, path, minimal⟩ | ⟨minimalFailed, error, minimal⟩
  · rcases each .full with ⟨fullLeft, other, full⟩ | ⟨fullFailed, error, full⟩
    · rw [minimal, full]
      exact .inl ⟨⟨_, rfl⟩, by rintro (_ | _) <;> assumption⟩
    · rw [minimal, full]
      exact .inr ⟨⟨error, rfl⟩, fun all => fullFailed (all .full)⟩
  · rw [minimal]
    exact .inr ⟨⟨error, rfl⟩, fun all => minimalFailed (all .minimal)⟩

/-! ### One variant -/

section

variable {request : Request} {directory : PathName} {stamp : Text}
  {diagram : Variant → Except Fault Text} {start : FileSystem}
  {answer : Except Failure (List PathName)} {after : Scene}
  (settled : Settled request directory stamp diagram
    (fun _ => (Renderer.mk executable RenderOptions.standard).image (programs executable)) start
    answer after)
  (canRun : Renderer.CanRun executable (programs executable))

include settled canRun

/-- The image that the renderer leaves of a variant is saved. -/
theorem Settled.readFile_of_left {variant : Variant} {text : Text} {input : List UInt8}
    (drawn : diagram variant = .ok text) (encoded : Text.utf8Encode text = .ok input)
    {completion : Completion}
    (left : Renderer.completion? (programs executable) input = some completion)
    (succeeds : completion.Succeeds) :
    after.readFile (variant.imagePath directory stamp) = .ok completion.stdout := by
  have image := (Renderer.image_eq_ok_iff canRun encoded).mpr ⟨completion, left, succeeds, rfl⟩
  refine settled.saved variant .image completion.stdout ?_
  rw [drawn]
  simp [savedOutput?, image, Except.toOption]

/-- A variant without an image leaves what is in its place. -/
theorem Settled.content?_of_not_left {variant : Variant} {text : Text} {input : List UInt8}
    (drawn : diagram variant = .ok text) (encoded : Text.utf8Encode text = .ok input)
    (failed : ¬ LeavesImage (programs executable) input) :
    after.files.content? (variant.imagePath directory stamp).place =
      start.content? (variant.imagePath directory stamp).place := by
  refine settled.unsaved variant .image ?_
  rw [drawn]
  cases image : (Renderer.mk executable RenderOptions.standard).image (programs executable)
      text with
  | error failure => simp [savedOutput?, image, Except.toOption]
  | ok content =>
      obtain ⟨completion, left, succeeds, -⟩ := (Renderer.image_eq_ok_iff canRun encoded).mp image
      exact absurd ⟨completion, left, succeeds⟩ failed

/-- The run answers exactly if the renderer leaves an image of both variants, and otherwise it ends
with an error of the renderer. -/
theorem Settled.answer_of_rendered {input : Variant → List UInt8}
    (drawn : ∀ variant, ∃ text, diagram variant = .ok text ∧
      Text.utf8Encode text = .ok (input variant)) :
    ((∃ paths, answer = .ok paths) ∧
      ∀ variant, LeavesImage (programs executable) (input variant)) ∨
    ((∃ error, answer = .error (.render error)) ∧
      ¬ ∀ variant, LeavesImage (programs executable) (input variant)) := by
  rw [settled.answer]
  refine @combine_rendered (fun variant => variantAnswer (variant.imagePath directory stamp)
    (diagram variant)
    ((Renderer.mk executable RenderOptions.standard).image (programs executable))) _
    fun variant => ?_
  obtain ⟨text, isDrawn, encoded⟩ := drawn variant
  rw [isDrawn]
  exact (variantAnswer_rendered canRun encoded _ rfl).imp
    (fun ⟨left, answered⟩ => ⟨left, _, answered⟩)
    fun ⟨failed, error, answered, _⟩ => ⟨failed, error, answered⟩

end

variable {scene : Scene} {arguments : List Text} {stamp : Text} {source : StdGen}
  {request : Request} {directory : PathName}

/-- A variant without an image fails with an error of the renderer, which says something. -/
theorem runVariant_of_not_left (givenDirectory : request.outputDir = some directory)
    (givenExecutable : request.executable = some executable) (plain : CodePoint.char '/' ∉ stamp)
    (canRun : Renderer.CanRun executable (programs executable)) {models : List EntityModel}
    (canSave : scene.files.CanSaveAll request directory stamp
      (variantDiagram request source models)
      fun _ => (Renderer.mk executable RenderOptions.standard).image (programs executable))
    {variant : Variant} {text : Text} {input : List UInt8}
    (drawn : variantDiagram request source models variant = .ok text)
    (encoded : Text.utf8Encode text = .ok input)
    (failed : ¬ LeavesImage (programs executable) input) :
    ∃ error : RenderError,
      ((runVariant (Scene.worldWith fun name => pure (programs name)) request stamp
        (requestedRendering request) (variantDiagram request source models variant)
        variant).run.run scene).1 = .error (.render error) ∧ error.message ≠ [] := by
  -- What a variant says of its failure shows when it runs alone.
  have alone := @run_runVariant (fun name => pure (programs name)) programs scene request
    directory stamp source models
    (fun diagram _ => .render ⟨executable, RenderOptions.standard⟩ diagram) givenDirectory plain
    (fun _ _ => trivial) (fun _ _ _ _ _ _ => rfl) canSave variant
  rw [drawn] at alone ⊢
  rcases variantAnswer_rendered canRun encoded _ rfl with ⟨left, -⟩ | ⟨-, error, answered, worded⟩
  · exact absurd left failed
  · refine ⟨error, ?_, worded⟩
    rw [requestedRendering_eq givenExecutable]
    exact alone.trans answered

/-! ### Whole runs -/

variable (accepted : parseArguments arguments = .ok request)

include accepted

/-- Without models no file changes and no program is run. -/
theorem execute_unloaded {error : ConversionError}
    (failed : requestedModels request scene.found = .error (.conversion error)) :
    ∃ logged, ∀ program,
      (execute (Scene.worldWith program) arguments stamp source).run scene =
        (.run (.ok 1), { scene with logged }) := by
  obtain ⟨logged, runs⟩ := run_generate request stamp source (requestedRendering request) scene
  refine ⟨logged ++ [.failed (.conversion error)], fun program => ?_⟩
  rw [run_execute accepted, runs, failed]
  simp only [run_exitCode]
  rfl

/-- If neither variant can be planned, no file changes and the failure is not reported. -/
theorem execute_unplanned {models : List EntityModel} {failure : Failure}
    (collected : requestedModels request scene.found = .ok models)
    (unplanned : ∀ variant,
      plansOf request stamp source (requestedRendering request) models variant = .error failure)
    (unreported : failure.isReported = false) (program : Text → StateM Scene (Option Program)) :
    ∃ logged,
      (execute (Scene.worldWith program) arguments stamp source).run scene =
        (.run (.error failure), { scene with logged }) := by
  obtain ⟨logged, runs⟩ := run_generate request stamp source (requestedRendering request) scene
  have draws : (drawModels (Scene.worldWith program) request stamp source
      (requestedRendering request) models).run { scene with logged } =
        (.error failure, { scene with logged }) := by
    rw [drawModels_of_unplanned _ unplanned]
    rfl
  refine ⟨logged, ?_⟩
  rw [run_execute accepted, runs, collected]
  simp only [draws, run_exitCode, unreported, Bool.false_eq_true, if_false]

/-- With models the files settle, and the exit code tells whether there is an answer. -/
theorem execute_loaded (givenDirectory : request.outputDir = some directory)
    (givenExecutable : request.executable = some executable) (plain : CodePoint.char '/' ∉ stamp)
    {models : List EntityModel} (collected : requestedModels request scene.found = .ok models)
    (canSave : scene.files.CanSaveAll request directory stamp
      (variantDiagram request source models)
      fun _ => (Renderer.mk executable RenderOptions.standard).image (programs executable)) :
    ∃ answer drawn logged,
      Settled request directory stamp (variantDiagram request source models)
        (fun _ => (Renderer.mk executable RenderOptions.standard).image (programs executable))
        scene.files answer drawn ∧
      ((execute (Scene.worldWith fun name => pure (programs name)) arguments stamp source).run
          scene).2 = { drawn with logged } ∧
      ((execute (Scene.worldWith fun name => pure (programs name)) arguments stamp source).run
          scene).1 =
        match answer with
        | .ok _ => .run (.ok 0)
        | .error failure => .run (if failure.isReported then .ok 1 else .error failure) := by
  obtain ⟨logged, runs⟩ := run_generate request stamp source (requestedRendering request) scene
  rw [run_execute accepted, runs, collected, requestedRendering_eq givenExecutable]
  have settled := @drawModels_settles (fun name => pure (programs name)) programs
    { scene with logged } request directory stamp source models
    (fun diagram _ => .render ⟨executable, RenderOptions.standard⟩ diagram) givenDirectory plain
    (fun _ _ => trivial) (fun _ _ _ _ _ _ => rfl) canSave
  dsimp only at settled ⊢
  generalize (drawModels (Scene.worldWith fun name => pure (programs name)) request stamp source
    (savingBy fun diagram _ => .render ⟨executable, RenderOptions.standard⟩ diagram) models).run
      { scene with logged } = generated at settled ⊢
  obtain ⟨answer, drawn⟩ := generated
  simp only [run_exitCode]
  cases answer with
  | ok paths => exact ⟨.ok paths, drawn, drawn.logged, settled, rfl, rfl⟩
  | error failure =>
      dsimp only
      cases reported : failure.isReported with
      | true =>
          refine ⟨.error failure, drawn, _, settled, rfl, ?_⟩
          simp [reported]
      | false =>
          refine ⟨.error failure, drawn, drawn.logged, settled, rfl, ?_⟩
          simp [reported]

/-- The program succeeds exactly if the models were collected and both images were left, which are
saved then.  Without models no file changes and no program is run, and a variant without an image
fails with an error of the renderer and leaves what is in its place.  Nothing is said of a document
that holds itself. -/
theorem execute_succeeds_iff (scene : Scene) (source : StdGen) (programs : Text → Option Program)
    (moment : Moment) (givenDirectory : request.outputDir = some directory)
    (givenExecutable : request.executable = some executable)
    (canRun : Renderer.CanRun executable (programs executable)) :
    let stamp := Text.ofString moment.stamp
    let world := Scene.worldWith fun name => pure (programs name)
    let ended := (execute world arguments stamp source).run scene
    (∀ error, requestedModels request scene.found = .error (.conversion error) →
      ended.1 = .run (.ok 1) ∧ ended.2.files = scene.files ∧
        ∀ program, (execute (Scene.worldWith program) arguments stamp source).run scene = ended) ∧
    ∀ models (input : Variant → List UInt8),
      requestedModels request scene.found = .ok models →
      (∀ variant, ∃ text, variantDiagram request source models variant = .ok text ∧
        Text.utf8Encode text = .ok (input variant)) →
      scene.files.CanSaveAll request directory stamp (variantDiagram request source models)
        (fun _ => (Renderer.mk executable RenderOptions.standard).image (programs executable)) →
      (ended.1 = .run (.ok 0) ∨ ended.1 = .run (.ok 1)) ∧
      (ended.1 = .run (.ok 0) ↔
        ∀ variant, LeavesImage (programs executable) (input variant)) ∧
      ∀ variant : Variant,
        (∀ completion,
          Renderer.completion? (programs executable) (input variant) = some completion →
          completion.Succeeds →
            ended.2.readFile (variant.imagePath directory stamp) = .ok completion.stdout) ∧
        (¬ LeavesImage (programs executable) (input variant) →
          (∃ error : RenderError,
            ((runVariant world request stamp (requestedRendering request)
              (variantDiagram request source models variant) variant).run.run scene).1 =
                .error (.render error) ∧ error.message ≠ []) ∧
          ended.2.files.content? (variant.imagePath directory stamp).place =
            scene.files.content? (variant.imagePath directory stamp).place) := by
  intro stamp world ended
  have plain : CodePoint.char '/' ∉ stamp := moment.stamp_plain
  constructor
  · intro error failed
    obtain ⟨logged, runs⟩ : ∃ logged, ∀ program,
        (execute (Scene.worldWith program) arguments stamp source).run scene =
          (.run (.ok 1), { scene with logged }) :=
      execute_unloaded accepted failed
    have same : ended = (.run (.ok 1), { scene with logged }) := runs _
    rw [same]
    exact ⟨rfl, rfl, runs⟩
  · intro models input collected drawn canSave
    obtain ⟨answer, after, logged, settled, files, code⟩ := execute_loaded accepted givenDirectory
      givenExecutable plain collected canSave
    have sameScene : ended.2 = { after with logged } := files
    have decided := settled.answer_of_rendered canRun drawn
    refine ⟨?_, ?_, fun variant => ?_⟩
    · rcases decided with ⟨⟨paths, rfl⟩, -⟩ | ⟨⟨error, rfl⟩, -⟩
      · exact .inl code
      · exact .inr code
    · rcases decided with ⟨⟨paths, rfl⟩, all⟩ | ⟨⟨error, rfl⟩, notAll⟩
      · exact ⟨fun _ => all, fun _ => code⟩
      · have failed : ended.1 = .run (.ok 1) := code
        rw [failed]
        exact ⟨nofun, fun all => absurd all notAll⟩
    · obtain ⟨text, isDrawn, encoded⟩ := drawn variant
      rw [sameScene]
      exact ⟨fun _ left succeeds => settled.readFile_of_left canRun isDrawn encoded left succeeds,
        fun failed => ⟨runVariant_of_not_left givenDirectory givenExecutable plain canRun canSave
          isDrawn encoded failed, settled.content?_of_not_left canRun isDrawn encoded failed⟩⟩

end

/-- One program, which prints what it reads. -/
def copying (name : Text) : Option Program :=
  if name = CommandLine.standardExecutable then some fun _ input => ⟨input, [], 0⟩ else none

theorem copying_canRun : Renderer.CanRun CommandLine.standardExecutable
    (copying CommandLine.standardExecutable) :=
  fun _ => ⟨_, rfl⟩

theorem bareDiagram_encoded (variant : Variant) :
    Text.utf8Encode (bareDiagram variant) = .ok (bareDiagram variant).nameBytes := by
  cases variant <;> rfl

theorem bareDiagram_copied (variant : Variant) :
    Completion.Succeeds ⟨(bareDiagram variant).nameBytes, [], 0⟩ := by
  refine ⟨rfl, ?_⟩
  cases variant <;> decide

theorem bareScene_succeeds :
    let ended := (execute (Scene.worldWith fun name => pure (copying name))
      (["--input", "models.yaml", "--output-dir", "out", "--emit-source"].map Text.ofString)
      bareStamp mkStdGen).run bareScene
    ended.1 = .run (.ok 0) ∧
      ∀ variant : Variant, ended.2.readFile (variant.imagePath (PathName.ofText "out") bareStamp) =
        .ok (bareDiagram variant).nameBytes := by
  have accepted : parseArguments (["--input", "models.yaml", "--output-dir", "out",
      "--emit-source"].map Text.ofString) = .ok bareRequest := rfl
  obtain ⟨-, settles⟩ := execute_succeeds_iff accepted bareScene mkStdGen copying (.ofEpoch 0) rfl
    rfl copying_canRun
  have drawn (variant : Variant) : ∃ text,
      variantDiagram bareRequest mkStdGen [bareModel] variant = .ok text ∧
        Text.utf8Encode text = .ok (bareDiagram variant).nameBytes :=
    ⟨bareDiagram variant, bareModel_drawn rfl _ _, bareDiagram_encoded variant⟩
  obtain ⟨-, succeeded, each⟩ := settles [bareModel]
    (fun variant => (bareDiagram variant).nameBytes) bareScene_models drawn (bareScene_canSave _)
  exact ⟨succeeded.mpr fun variant => ⟨_, rfl, bareDiagram_copied variant⟩,
    fun variant => (each variant).1 _ rfl (bareDiagram_copied variant)⟩

/-- No directory is given, though there is an option for it. -/
def undirectedRequest : Request :=
  { Request.ofInput (PathName.ofText "models.yaml") with outputDir := none }

def undirectedReadings : List (Text × CommandLine.Reading) :=
  [("--input=models.yaml", .option .input false (some "models.yaml")),
    ("--output-dir=--", .option .outputDir false (some "--"))]

theorem undirectedRequest_parsed :
    parseArguments (["--input=models.yaml", "--output-dir=--"].map Text.ofString) =
      .ok undirectedRequest := by
  have read : CommandLine.readArguments
      (["--input=models.yaml", "--output-dir=--"].map Text.ofString) = .ok undirectedReadings := rfl
  have carried : CommandLine.carryOut .start undirectedReadings =
      .ok ⟨undirectedRequest, true, []⟩ := rfl
  rw [parseArguments, read, bind_ok, carried]
  rfl

/-- A run that has collected its models can end with a failure that is not reported. -/
theorem bareScene_undirected :
    parseArguments (["--input=models.yaml", "--output-dir=--"].map Text.ofString) =
        .ok undirectedRequest ∧
      requestedModels undirectedRequest bareScene.found = .ok [bareModel] ∧
      ((execute (Scene.worldWith fun name => pure (copying name))
        (["--input=models.yaml", "--output-dir=--"].map Text.ofString) bareStamp mkStdGen).run
          bareScene).1 = .run (.error (.missing .outputDir)) := by
  have accepted : parseArguments (["--input=models.yaml", "--output-dir=--"].map Text.ofString) =
      .ok undirectedRequest :=
    undirectedRequest_parsed
  have collected : requestedModels undirectedRequest bareScene.found = .ok [bareModel] :=
    eq_of_collectsBare (by decide +kernel)
  have unplanned (variant : Variant) : plansOf undirectedRequest bareStamp mkStdGen
      (requestedRendering undirectedRequest) [bareModel] variant =
        .error (.missing .outputDir) := by
    rw [plansOf, bareModel_drawn rfl]
    rfl
  obtain ⟨logged, runs⟩ := execute_unplanned accepted collected unplanned rfl
    fun name => pure (copying name)
  exact ⟨accepted, collected, by rw [runs]⟩

end EntityDiagram
