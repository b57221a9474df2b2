import EntityDiagram.Proofs.Generation.Forecast
import EntityDiagram.Proofs.Generation.Outputs

/-!
# The variants do not interfere

Whatever the order of their turns, each variant saves its own outputs, and the run answers when both
have ended: the paths of both images, or the failure of the minimal variant before that of the full
one.  What a variant saves depends on its diagram and on the outcome of rendering it alone.
-/

namespace EntityDiagram

open CommandLine (Request)

/-- An action that makes an image. -/
def Action.IsMaking : Action → Prop
  | .render _ _ | .receive _ => True
  | .print _ | .makeParents _ | .writeText _ _ | .writeImage _ | .announce _ => False

/-- Every image is made by an action of its own. -/
def savingBy (making : Text → PathName → Action) : Rendering := fun diagram path =>
  saveImage (making diagram path) path

theorem savingBy_brief (making : Text → PathName → Action) (diagram : Text) (path : PathName) :
    (savingBy making diagram path).length + 3 ≤ 7 :=
  Nat.le_refl 7

/-- What a variant saves, if its diagram and the outcome of rendering it are given. -/
def savedOutput? (request : Request) (diagram : Except Fault Text)
    (outcome : Text → Except Failure (List UInt8)) : Output → Option (List UInt8)
  | .source =>
      if request.emitSource then diagram.toOption.bind fun text => (fileBytes text).toOption
      else none
  | .image => diagram.toOption.bind fun text => (outcome text).toOption

/-- What a variant answers, if its diagram and the outcome of rendering it are given. -/
def variantAnswer (path : PathName) (diagram : Except Fault Text)
    (outcome : Text → Except Failure (List UInt8)) : Except Failure PathName := do
  let text ← diagram.mapError .fault
  let _ ← outcome text
  return path

section

variable {program : Text → StateM Scene (Option Program)} {found : Text → Option Program}
  {start ready : FileSystem} {made : Bool} {image : List UInt8}

/-! ### Saving an image -/

section

variable {making : Action} {path : PathName} (isMaking : making.IsMaking)

include isMaking

theorem Action.IsMaking.writes : making.writes image = [] := by
  cases making with
  | render | receive => rfl
  | print | makeParents | writeText | writeImage | announce => exact isMaking.elim

/-- The image is made whatever image is held. -/
theorem Action.IsMaking.forecast (found : Text → Option Program) (image : List UInt8) :
    making.forecast found image = making.forecast found [] := by
  cases making with
  | render | receive => rfl
  | print | makeParents | writeText | writeImage | announce => exact isMaking.elim

theorem writesOf_saveImage :
    writesOf found image (saveImage making path) =
      match making.forecast found [] with
      | .ok image => [(path.place, image)]
      | .error _ => [] := by
  rw [saveImage, writesOf, isMaking.writes, isMaking.forecast found image, List.nil_append]
  cases making.forecast found [] <;> rfl

theorem endOf_saveImage :
    endOf found image (saveImage making path) = (making.forecast found []).map fun _ => () := by
  rw [saveImage, endOf, isMaking.forecast found image]
  cases making.forecast found [] <;> rfl

theorem allFit_saveImage (fits : Scene.Fits program found start ready made making)
    (opens : ∀ image, making.forecast found [] = .ok image → Scene.Opens start ready path) :
    Scene.AllFit program found start ready made image (saveImage making path) := by
  refine ⟨fits, fun next foreseen => ?_⟩
  rw [isMaking.forecast found image] at foreseen
  have isOpen := opens next foreseen
  refine ⟨isOpen, fun _ _ => ⟨⟨?_, isOpen⟩, fun _ _ => ⟨trivial, fun _ _ => trivial⟩⟩⟩
  simp [Action.makes]

end

/-! ### Preparing -/

section

variable {request : Request} {diagram : Text} {path : PathName} {rest : List Action}
  {bytes : List UInt8}

theorem writesOf_preparation
    (encoded : request.emitSource = true → fileBytes diagram = .ok bytes) :
    writesOf found image (preparation request diagram path ++ rest) =
      (if request.emitSource then [((sourcePath path).place, bytes)] else []) ++
        writesOf found image rest := by
  unfold preparation
  cases emits : request.emitSource with
  | false => cases request.debug <;> rfl
  | true =>
      have written : writesOf found image
          (.makeParents (sourcePath path) :: .writeText (sourcePath path) diagram :: rest) =
            ((sourcePath path).place, bytes) :: writesOf found image rest := by
        simp [writesOf, Action.writes, Action.forecast, encoded emits, Except.toOption, Except.map]
      cases request.debug <;> exact written

theorem endOf_preparation
    (encoded : request.emitSource = true → fileBytes diagram = .ok bytes) :
    endOf found image (preparation request diagram path ++ rest) = endOf found image rest := by
  unfold preparation
  cases emits : request.emitSource with
  | false => cases request.debug <;> rfl
  | true =>
      have ends : endOf found image
          (.makeParents (sourcePath path) :: .writeText (sourcePath path) diagram :: rest) =
            endOf found image rest := by
        simp [endOf, Action.forecast, encoded emits, Except.map, bind_ok]
      cases request.debug <;> exact ends

theorem allFit_preparation
    (opens : request.emitSource = true → Scene.Opens start ready (sourcePath path))
    (fit : ∀ made, Scene.AllFit program found start ready made image rest) :
    Scene.AllFit program found start ready made image
      (preparation request diagram path ++ rest) := by
  unfold preparation
  have printed {actions : List Action} {text : Text}
      (fit : Scene.AllFit program found start ready made image actions) :
      Scene.AllFit program found start ready made image (.print text :: actions) := by
    refine ⟨trivial, fun next foreseen => ?_⟩
    cases foreseen
    simpa [Action.makes] using fit
  cases emits : request.emitSource with
  | false =>
      cases request.debug with
      | false => exact fit made
      | true => exact printed (fit made)
  | true =>
      have isOpen := opens emits
      have sourceFits : Scene.AllFit program found start ready made image
          (.makeParents (sourcePath path) :: .writeText (sourcePath path) diagram :: rest) := by
        refine ⟨isOpen, fun next foreseen => ?_⟩
        cases foreseen
        refine ⟨⟨by simp [Action.makes], isOpen⟩, fun next foreseen => ?_⟩
        cases encoded : fileBytes diagram with
        | error failure => simp [Action.forecast, encoded, Except.map] at foreseen
        | ok bytes =>
            simp only [Action.forecast, encoded, Except.map, Except.ok.injEq] at foreseen
            exact foreseen ▸ fit _
      cases request.debug with
      | false => exact sourceFits
      | true => exact printed sourceFits

end

/-! ### The tasks of a run -/

section

variable {request : Request} {directory : PathName} {stamp : Text}
  {source : StdGen} {models : List EntityModel} {making : Text → PathName → Action}

/-- Every file that a run comes to save can be written, by itself and from the start, and the
texts of the sources have bytes. -/
structure FileSystem.CanSaveAll (files : FileSystem) (request : Request) (directory : PathName)
    (stamp : Text) (diagram : Variant → Except Fault Text)
    (outcome : Variant → Text → Except Failure (List UInt8)) : Prop where
  encoded : request.emitSource = true → ∀ variant text, diagram variant = .ok text →
    ∃ bytes, fileBytes text = .ok bytes
  paths : ∀ variant output content,
    savedOutput? request (diagram variant) (outcome variant) output = some content →
      files.CanSave (variant.savedPath directory stamp output)

theorem FileSystem.CanSaveAll.bytes {diagram : Variant → Except Fault Text}
    {outcome : Variant → Text → Except Failure (List UInt8)}
    (canSave : start.CanSaveAll request directory stamp diagram outcome) {variant : Variant}
    {text : Text} (drawn : diagram variant = .ok text) :
    ∃ bytes, request.emitSource = true → fileBytes text = .ok bytes := by
  cases emits : request.emitSource with
  | false => exact ⟨[], fun absurd => by cases absurd⟩
  | true =>
      obtain ⟨bytes, encoded⟩ := canSave.encoded emits variant text drawn
      exact ⟨bytes, fun _ => encoded⟩

/-- What the actions foresee as the outcome of rendering. -/
def outcomeOf (found : Text → Option Program) (making : Text → PathName → Action)
    (directory : PathName) (stamp : Text) (variant : Variant) (text : Text) :
    Except Failure (List UInt8) :=
  (making text (variant.imagePath directory stamp)).forecast found []

theorem tasks_of_drawn (given : request.outputDir = some directory) {variant : Variant}
    {text : Text} (drawn : variantDiagram request source models variant = .ok text) :
    (plansOf request stamp source (savingBy making) models).tasks variant =
      ⟨[], .ok (preparation request text (variant.imagePath directory stamp) ++
        saveImage (making text (variant.imagePath directory stamp))
          (variant.imagePath directory stamp))⟩ := by
  simp only [Plans.tasks, plansOf, variantPlan, drawn, given]
  rfl

theorem tasks_of_failed {variant : Variant} {fault : Fault}
    (failed : variantDiagram request source models variant = .error fault) :
    (plansOf request stamp source (savingBy making) models).tasks variant =
      ⟨[], .error (.fault fault)⟩ := by
  simp only [Plans.tasks, plansOf, variantPlan, failed]
  rfl

/-- The places where a run saves files, with what it saves there. -/
def savedFiles (request : Request) (directory : PathName) (stamp : Text)
    (diagram : Variant → Except Fault Text)
    (outcome : Variant → Text → Except Failure (List UInt8)) (file : Location × List UInt8) :
    Prop :=
  ∃ variant output content,
    savedOutput? request (diagram variant) (outcome variant) output = some content ∧
      file = ((variant.savedPath directory stamp output).place, content)

/-- Different contents are saved in different places. -/
theorem savedFiles_unique (plain : CodePoint.char '/' ∉ stamp)
    {diagram : Variant → Except Fault Text}
    {outcome : Variant → Text → Except Failure (List UInt8)} {file other : Location × List UInt8}
    (saved : savedFiles request directory stamp diagram outcome file)
    (otherSaved : savedFiles request directory stamp diagram outcome other)
    (same : other.1 = file.1) : other.2 = file.2 := by
  obtain ⟨variant, output, content, saves, rfl⟩ := saved
  obtain ⟨otherVariant, otherOutput, otherContent, otherSaves, rfl⟩ := otherSaved
  simp only [Variant.savedPath_eq plain] at same
  obtain ⟨rfl, rfl⟩ := Variant.place_outputPath_injective plain same
  rw [saves] at otherSaves
  exact (Option.some.inj otherSaves).symm

section

variable (given : request.outputDir = some directory)
  (isMaking : ∀ text path, (making text path).IsMaking)
  (canSave : start.CanSaveAll request directory stamp (variantDiagram request source models)
    (outcomeOf found making directory stamp))

include given isMaking canSave

theorem mem_writes_tasks_iff {variant : Variant} {write : Location × List UInt8} :
    write ∈ ((plansOf request stamp source (savingBy making) models).tasks variant).writes found ↔
      ∃ output content,
        savedOutput? request (variantDiagram request source models variant)
          (outcomeOf found making directory stamp variant) output = some content ∧
        write = ((variant.savedPath directory stamp output).place, content) := by
  cases drawn : variantDiagram request source models variant with
  | error fault =>
      rw [tasks_of_failed drawn]
      constructor
      · intro member
        cases member
      · rintro ⟨_ | _, content, saves, -⟩ <;> simp [savedOutput?, Except.toOption] at saves
  | ok text =>
      obtain ⟨bytes, encoded⟩ := canSave.bytes drawn
      have images : writesOf found [] (saveImage (making text (variant.imagePath directory stamp))
            (variant.imagePath directory stamp)) =
          match outcomeOf found making directory stamp variant text with
          | .ok image => [((variant.imagePath directory stamp).place, image)]
          | .error _ => [] :=
        writesOf_saveImage (isMaking ..)
      rw [tasks_of_drawn given drawn, Task.writes]
      simp only [writesOf_preparation encoded, images, List.mem_append, Output.exists_iff]
      refine or_congr ?_ ?_
      · cases emits : request.emitSource with
        | false => simp [savedOutput?, emits]
        | true =>
            simp [savedOutput?, emits, encoded emits, Except.toOption, Variant.savedPath]
      · show _ ↔ ∃ content, (outcomeOf found making directory stamp variant text).toOption =
          some content ∧ write = ((variant.imagePath directory stamp).place, content)
        cases outcomeOf found making directory stamp variant text <;> simp [Except.toOption]

theorem conclude_ending {variant : Variant} :
    (plansOf request stamp source (savingBy making) models).conclude variant
        (((plansOf request stamp source (savingBy making) models).tasks variant).ending found) =
      variantAnswer (variant.imagePath directory stamp)
        (variantDiagram request source models variant)
        (outcomeOf found making directory stamp variant) := by
  cases drawn : variantDiagram request source models variant with
  | error fault =>
      simp only [Plans.conclude, plansOf, variantPlan, drawn]
      rfl
  | ok text =>
      obtain ⟨bytes, encoded⟩ := canSave.bytes drawn
      have ends : endOf found [] (saveImage (making text (variant.imagePath directory stamp))
            (variant.imagePath directory stamp)) =
          (outcomeOf found making directory stamp variant text).map fun _ => () :=
        endOf_saveImage (isMaking ..)
      have ending : ((plansOf request stamp source (savingBy making) models).tasks variant).ending
          found = (outcomeOf found making directory stamp variant text).map fun _ => () := by
        rw [tasks_of_drawn given drawn, Task.ending]
        simp only [bind_ok, endOf_preparation encoded, ends]
      rw [ending]
      simp only [Plans.conclude, plansOf, variantPlan, drawn, given, variantAnswer, mapError_ok,
        bind_ok]
      generalize outcomeOf found making directory stamp variant text = outcome
      cases outcome <;> rfl

variable (plain : CodePoint.char '/' ∉ stamp)
  (fits : ∀ start ready made text path,
    Scene.Fits program found start ready made (making text path))

include plain

omit given isMaking in
theorem opens_savedPath {variant : Variant} {output : Output} {content : List UInt8}
    (saves : savedOutput? request (variantDiagram request source models variant)
      (outcomeOf found making directory stamp variant) output = some content) :
    Scene.Opens start (start.withDirectory (directory.parts.length + 1) directory)
      (variant.savedPath directory stamp output) := by
  have opens := Scene.opens_of_canSave (canSave.paths variant output content saves)
  rw [Variant.savedPath_eq plain] at opens ⊢
  simpa [Variant.outputPath, PathName.entry, PathName.parent] using opens

include fits

theorem underway_start :
    Scene.Underway program found start
      (start.withDirectory (directory.parts.length + 1) directory)
      (savedFiles request directory stamp (variantDiagram request source models)
        (outcomeOf found making directory stamp)) false []
      (plansOf request stamp source (savingBy making) models).tasks start := by
  refine ⟨.before, fun variant => ?_, fun write => ?_⟩
  · cases drawn : variantDiagram request source models variant with
    | error fault =>
        rw [tasks_of_failed drawn]
        intro actions same
        cases same
    | ok text =>
        obtain ⟨bytes, encoded⟩ := canSave.bytes drawn
        rw [tasks_of_drawn given drawn]
        intro actions same
        cases same
        refine allFit_preparation (fun emits => ?_) fun made =>
          allFit_saveImage (isMaking ..) (fits ..) fun image rendered => ?_
        · have saves : savedOutput? request (variantDiagram request source models variant)
              (outcomeOf found making directory stamp variant) .source = some bytes := by
            simp [savedOutput?, drawn, emits, encoded emits, Except.toOption]
          exact opens_savedPath canSave plain saves
        · have outcome : outcomeOf found making directory stamp variant text = .ok image := rendered
          have saves : savedOutput? request (variantDiagram request source models variant)
              (outcomeOf found making directory stamp variant) .image = some image := by
            simp [savedOutput?, drawn, outcome, Except.toOption]
          exact opens_savedPath canSave plain saves
  · simp only [List.not_mem_nil, false_or, mem_writes_tasks_iff given isMaking canSave]
    rfl

end

end

end

/-! ### Every order of turns -/

/-- What holds when a run has answered: its answer is that of its variants, what they save is there,
and every other place holds what it held at the start. -/
structure Settled (request : Request) (directory : PathName) (stamp : Text)
    (diagram : Variant → Except Fault Text)
    (outcome : Variant → Text → Except Failure (List UInt8)) (start : FileSystem)
    (answer : Except Failure (List PathName)) (after : Scene) : Prop where
  answer : answer = combine
    (variantAnswer (Variant.minimal.imagePath directory stamp) (diagram .minimal)
      (outcome .minimal))
    (variantAnswer (Variant.full.imagePath directory stamp) (diagram .full) (outcome .full))
  saved : ∀ variant output content,
    savedOutput? request (diagram variant) (outcome variant) output = some content →
      after.readFile (variant.savedPath directory stamp output) = .ok content
  unsaved : ∀ variant output,
    savedOutput? request (diagram variant) (outcome variant) output = none →
      after.files.content? (variant.savedPath directory stamp output).place =
        start.content? (variant.savedPath directory stamp output).place
  others : ∀ location, (∀ file, savedFiles request directory stamp diagram outcome file →
      file.1 ≠ location) → after.files.content? location = start.content? location

theorem answer?_of_ended {plans : Plans} {tasks : Tasks}
    (ended : ∀ variant, (tasks variant).length = 0) (found : Text → Option Program) :
    plans.answer? tasks = some (combine
      (plans.conclude .minimal ((tasks .minimal).ending found))
      (plans.conclude .full ((tasks .full).ending found))) := by
  rw [Plans.answer?, Task.outcome?_of_ended (ended _) found, Task.outcome?_of_ended (ended _) found]
  rfl

theorem length_of_answer? {plans : Plans} {tasks : Tasks}
    (answers : (plans.answer? tasks).isSome = true) (variant : Variant) :
    (tasks variant).length = 0 := by
  rw [← Task.outcome?_isSome_iff]
  unfold Plans.answer? at answers
  cases minimal : (tasks .minimal).outcome? with
  | none => simp [minimal] at answers
  | some _ =>
      cases full : (tasks .full).outcome? with
      | none => simp [minimal, full] at answers
      | some _ =>
          cases variant with
          | minimal => rw [minimal]; rfl
          | full => rw [full]; rfl

section

variable {program : Text → StateM Scene (Option Program)} {found : Text → Option Program}
  {scene : Scene} {request : Request} {directory : PathName} {stamp : Text} {source : StdGen}
  {models : List EntityModel} {making : Text → PathName → Action}

/-- Whatever the order of turns, a run that answers has settled as its variants do alone, further
turns change nothing then, and a run whose tasks get enough turns answers. -/
theorem drawInTurns_settles (given : request.outputDir = some directory)
    (plain : CodePoint.char '/' ∉ stamp) (isMaking : ∀ text path, (making text path).IsMaking)
    (fits : ∀ start ready made text path,
      Scene.Fits program found start ready made (making text path))
    (canSave : scene.files.CanSaveAll request directory stamp
      (variantDiagram request source models) (outcomeOf found making directory stamp))
    (turns : List Variant) :
    let plans := plansOf request stamp source (savingBy making) models
    let run := (drawInTurns (Scene.worldWith program) plans turns).run scene
    (∀ answer, run.1 = some answer →
      Settled request directory stamp (variantDiagram request source models)
        (outcomeOf found making directory stamp) scene.files answer run.2 ∧
      ∀ more, (drawInTurns (Scene.worldWith program) plans (turns ++ more)).run scene = run) ∧
    ((∀ variant, 7 ≤ turns.count variant) → run.1.isSome = true) := by
  intro plans run
  have underway := underway_start given isMaking canSave plain fits
  obtain ⟨after, made, written, ran, underway⟩ := Scene.run_takeTurns underway turns
  have runs : run = (plans.answer? (plans.tasks.after found turns), after) := by
    show (drawInTurns (Scene.worldWith program) plans turns).run scene = _
    rw [drawInTurns, StateT.run_bind, ran]
    rfl
  have ending (variant : Variant) : (plans.tasks.after found turns variant).ending found =
      (plans.tasks variant).ending found :=
    Tasks.ending_after turns variant
  have elsewhere {location : Location} (elsewhere : ∀ file, savedFiles request directory stamp
      (variantDiagram request source models) (outcomeOf found making directory stamp) file →
        file.1 ≠ location) : after.files.content? location = scene.files.content? location :=
    underway.content_elsewhere elsewhere
  rw [runs]
  constructor
  · intro answer answers
    have ended (variant : Variant) : (plans.tasks.after found turns variant).length = 0 :=
      length_of_answer? (congrArg Option.isSome answers) variant
    refine ⟨⟨?_, fun variant output content saves => ?_, fun variant output savesNot => ?_,
      fun location notSaved => elsewhere notSaved⟩, fun more => ?_⟩
    · rw [answer?_of_ended ended found, ending, ending, conclude_ending given isMaking canSave,
        conclude_ending given isMaking canSave] at answers
      exact (Option.some.inj answers).symm
    · have isSaved : savedFiles request directory stamp (variantDiagram request source models)
          (outcomeOf found making directory stamp)
          ((variant.savedPath directory stamp output).place, content) :=
        ⟨variant, output, content, saves, rfl⟩
      exact underway.content_of_ended ended (opens_savedPath canSave plain saves) isSaved
        fun write alsoSaved same => savedFiles_unique plain isSaved alsoSaved same
    · refine elsewhere fun file isSaved same => ?_
      obtain ⟨other, otherOutput, content, saves, rfl⟩ := isSaved
      simp only [Variant.savedPath_eq plain] at same
      obtain ⟨rfl, rfl⟩ := Variant.place_outputPath_injective plain same
      rw [savesNot] at saves
      cases saves
    · rw [drawInTurns, World.takeTurns_append, bind_assoc, StateT.run_bind, ran]
      show StateT.run ((Scene.worldWith program).takeTurns more (plans.tasks.after found turns) >>=
        fun tasks => return plans.answer? tasks) after = _
      rw [World.takeTurns_of_ended _ ended, pure_bind]
      rfl
  · intro enough
    have ended (variant : Variant) : (plans.tasks.after found turns variant).length = 0 := by
      have short : (plans.tasks variant).length ≤ 7 :=
        length_plansOf_tasks_le (savingBy_brief making) variant
      have left : (plans.tasks.after found turns variant).length ≤
          (plans.tasks variant).length - turns.count variant :=
        Tasks.length_after_le turns variant
      have := enough variant
      omega
    rw [answer?_of_ended ended found]
    rfl

/-- Drawing one variant after the other settles as well. -/
theorem drawModels_settles (given : request.outputDir = some directory)
    (plain : CodePoint.char '/' ∉ stamp) (isMaking : ∀ text path, (making text path).IsMaking)
    (fits : ∀ start ready made text path,
      Scene.Fits program found start ready made (making text path))
    (canSave : scene.files.CanSaveAll request directory stamp
      (variantDiagram request source models) (outcomeOf found making directory stamp)) :
    let run := (drawModels (Scene.worldWith program) request stamp source (savingBy making)
      models).run scene
    Settled request directory stamp (variantDiagram request source models)
      (outcomeOf found making directory stamp) scene.files run.1 run.2 := by
  intro run
  have inTurns : (drawInTurns (Scene.worldWith program)
      (plansOf request stamp source (savingBy making) models) (oneByOne 7)).run scene =
        (some run.1, run.2) := by
    rw [← drawModels_eq_drawInTurns (Scene.worldWith program) rfl
      (length_plansOf_tasks_le (savingBy_brief making)), StateT.run_map]
    rfl
  obtain ⟨settles, -⟩ := drawInTurns_settles given plain isMaking fits canSave (oneByOne 7)
  rw [inTurns] at settles
  exact (settles run.1 rfl).1

/-- A variant that is drawn on its own answers the same. -/
theorem run_runVariant (given : request.outputDir = some directory)
    (plain : CodePoint.char '/' ∉ stamp) (isMaking : ∀ text path, (making text path).IsMaking)
    (fits : ∀ start ready made text path,
      Scene.Fits program found start ready made (making text path))
    (canSave : scene.files.CanSaveAll request directory stamp
      (variantDiagram request source models) (outcomeOf found making directory stamp))
    (variant : Variant) :
    ((runVariant (Scene.worldWith program) request stamp (savingBy making)
      (variantDiagram request source models variant) variant).run.run scene).1 =
        variantAnswer (variant.imagePath directory stamp)
          (variantDiagram request source models variant)
          (outcomeOf found making directory stamp variant) := by
  have underway := underway_start given isMaking canSave plain fits
  have concluded : (plansOf request stamp source (savingBy making) models).conclude variant
      (((plansOf request stamp source (savingBy making) models).tasks variant).ending found) = _ :=
    conclude_ending given isMaking canSave
  obtain ⟨count, enough⟩ : ∃ count,
      ((plansOf request stamp source (savingBy making) models).tasks variant).length ≤ count :=
    ⟨_, Nat.le_refl _⟩
  have runs := runVariant_eq (Scene.worldWith program) rfl enough
  generalize plansOf request stamp source (savingBy making) models = plans at *
  have ended : (plans.tasks.after found (List.replicate count variant) variant).length = 0 := by
    have left : (plans.tasks.after found (List.replicate count variant) variant).length ≤
        (plans.tasks variant).length - (List.replicate count variant).count variant :=
      Tasks.length_after_le _ variant
    rw [List.count_replicate_self] at left
    omega
  have answers : some ((runVariant (Scene.worldWith program) request stamp (savingBy making)
      (variantDiagram request source models variant) variant).run.run scene).1 =
        Option.map (plans.conclude variant)
          (((Scene.worldWith program).endTask count (plans.tasks variant)).run scene).1.outcome? :=
    congrArg (fun action => (action.run scene).1) runs
  rw [Scene.run_endTask underway, Task.outcome?_of_ended ended found, Tasks.ending_after,
    Option.map_some, Option.some.injEq] at answers
  exact answers.trans concluded

end

end EntityDiagram
