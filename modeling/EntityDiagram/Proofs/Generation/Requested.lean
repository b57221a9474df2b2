import EntityDiagram.Proofs.Catalog.Snapshot
import EntityDiagram.Proofs.Generation.Independence

/-!
# The models that are requested

Collecting the requested models looks at the input and logs what was collected.  It changes no file,
and runs no program.  So does a run up to the point where its models are known.
-/

namespace EntityDiagram

open CommandLine (Request)

/-- The models of a request, if it is known what is found at a path. -/
def requestedModels (request : Request) (found : PathName → Found) :
    Except Failure (List EntityModel) :=
  match request.input with
  | none => .error (.missing .input)
  | some path => do
      let models ← readModels path (found path)
      collectAll models (namesOr models request.entities)

section

variable {request : Request} {found : PathName → Found}

end

namespace Scene

def found (scene : Scene) (path : PathName) : Found :=
  match scene.look path with
  | .error fault => if fault.isAbsence then .nothing else .refused fault
  | .ok _ =>
      match scene.readFile path with
      | .error fault => .refused fault
      | .ok content => .file content

theorem run_find (path : PathName) (scene : Scene) :
    (world.find path).run scene = (scene.found path, scene) := by
  have unfolded : (world.find path).run scene =
      StateT.run (match scene.look path with
        | .error fault => return if fault.isAbsence then .nothing else .refused fault
        | .ok _ => do
            match ← world.readFile path with
            | .error fault => return .refused fault
            | .ok content => return .file content : StateM Scene Found) scene := rfl
  rw [unfolded, found]
  cases scene.look path with
  | error fault => rfl
  | ok kind =>
      have read : (world.readFile path).run scene = (scene.readFile path, scene) := rfl
      simp only [StateT.run_bind, read]
      cases scene.readFile path <;> rfl

theorem run_forM_log (program : Text → StateM Scene (Option Program))
    (models : List EntityModel) (scene : Scene) :
    (models.forM fun model => (liftM ((worldWith program).log (.collected model)) :
        ExceptT Failure (StateM Scene) Unit)).run.run scene =
      (.ok (), { scene with logged := scene.logged ++ models.map .collected }) := by
  induction models generalizing scene with
  | nil =>
      rw [List.map_nil, List.append_nil]
      rfl
  | cons model models ih =>
      have logged : (liftM ((worldWith program).log (.collected model)) :
          ExceptT Failure (StateM Scene) Unit).run.run scene =
            (.ok (), { scene with logged := scene.logged ++ [.collected model] }) := rfl
      rw [List.forM_eq_forM, List.forM_cons, ← List.forM_eq_forM, run_bind, logged]
      simp only [ih, List.map_cons, List.append_assoc, List.singleton_append]

theorem run_readRequested (program : Text → StateM Scene (Option Program)) (request : Request)
    (scene : Scene) :
    (readRequested (worldWith program) request).run.run scene =
      (match request.input with
        | none => .error (.missing .input)
        | some path => readModels path (scene.found path), scene) := by
  unfold readRequested
  cases request.input with
  | none => rfl
  | some path =>
      have found : (liftM ((worldWith program).find path) :
          ExceptT Failure (StateM Scene) Found).run.run scene =
            (.ok (scene.found path), scene) := by
        let answer (found : Found) : Except Failure Found := .ok found
        show (answer <$> world.find path).run scene = _
        rw [StateT.run_map, run_find]
        rfl
      simp only [run_bind, found]
      rfl

/-- Only the log is changed while the models are collected, whatever programs there are. -/
theorem run_collectRequested (request : Request) (scene : Scene) :
    ∃ logged, ∀ program, (collectRequested (worldWith program) request).run.run scene =
      (requestedModels request scene.found, { scene with logged }) := by
  unfold collectRequested requestedModels
  simp only [run_bind, run_readRequested]
  cases request.input with
  | none => exact ⟨scene.logged, fun _ => rfl⟩
  | some path =>
      dsimp only
      cases readModels path (scene.found path) with
      | error failure => exact ⟨scene.logged, fun _ => rfl⟩
      | ok models =>
          simp only [bind_ok, collectAll]
          generalize collectModels models (namesOr models request.entities) = collects
          obtain ⟨collected, failure⟩ := collects
          cases request.debug with
          | false =>
              refine ⟨scene.logged, fun _ => ?_⟩
              cases failure <;> rfl
          | true =>
              refine ⟨scene.logged ++ collected.map .collected, fun program => ?_⟩
              simp only [if_true, run_bind, run_forM_log]
              cases failure <;> rfl

end Scene

/-- How the program starts, whatever programs there are. -/
theorem run_generate (request : Request) (stamp : Text) (source : StdGen) (rendering : Rendering)
    (scene : Scene) :
    ∃ logged, ∀ program,
      (generate (Scene.worldWith program) request stamp source rendering).run.run scene =
        match requestedModels request scene.found with
        | .error failure => (.error failure, { scene with logged })
        | .ok models =>
            (drawModels (Scene.worldWith program) request stamp source rendering models).run
              { scene with logged } := by
  obtain ⟨logged, collected⟩ := Scene.run_collectRequested request
    { scene with logged := scene.logged ++ [.started] }
  refine ⟨logged, fun program => ?_⟩
  have started : (liftM ((Scene.worldWith program).log .started) :
      ExceptT Failure (StateM Scene) Unit).run.run scene =
        (.ok (), { scene with logged := scene.logged ++ [.started] }) := rfl
  have sameFound : Scene.found { scene with logged := scene.logged ++ [.started] } = scene.found :=
    rfl
  rw [generate, Scene.run_bind, started]
  simp only [Scene.run_bind, collected, sameFound]
  cases requestedModels request scene.found <;> rfl

/-! ### A small scene -/

/-- A directory with one file, whose only model says nothing. -/
def bareScene : Scene :=
  .ofFiles ⟨[(⟨.above 0, [Text.nameBytes "models.yaml"]⟩,
    .file (Text.nameBytes "models: {A: }"))]⟩ []

def bareRequest : Request :=
  { Request.ofInput (PathName.ofText "models.yaml") with
    outputDir := some (PathName.ofText "out")
    emitSource := true }

/-- The stamp of a run at the start of 1970. -/
def bareStamp : Text := Text.ofString (Moment.ofEpoch 0).stamp

def bareModel : EntityModel := ⟨.text "A", [], [], []⟩

/-- Whether a single model without structure and methods was collected. -/
def collectsBare (name : Text) : Except Failure (List EntityModel) → Bool
  | .ok [⟨.text other, [], [], []⟩] => other == name
  | _ => false

theorem eq_of_collectsBare {name : Text} {collected : Except Failure (List EntityModel)}
    (bare : collectsBare name collected = true) : collected = .ok [⟨.text name, [], [], []⟩] := by
  unfold collectsBare at bare
  split at bare
  · rw [eq_of_beq bare]
  · cases bare

theorem bareScene_models : requestedModels bareRequest bareScene.found = .ok [bareModel] :=
  eq_of_collectsBare (by decide +kernel)

def bareDiagram : Variant → Text
  | .minimal => "A: \x7bshape: sql_table\x7d\n"
  | .full => "A: \x7b\nshape: sql_table\n\x7d\n"

theorem bareModel_drawn {request : Request} (hashed : request.randomNames = false)
    (source : StdGen) (variant : Variant) :
    variantDiagram request source [bareModel] variant = .ok (bareDiagram variant) := by
  cases variant with
  | minimal => rfl
  | full =>
      have drawn : [bareModel].mapM (Drawing.ofModel hashedNaming) = .ok [⟨"A", [], [], []⟩] := rfl
      have fragments : Drawing.fragments ⟨"A", [], [], []⟩ = [bareDiagram .full] := by
        rw [Drawing.fragments, nestedTables]
        rfl
      have text : Drawing.text ⟨"A", [], [], []⟩ = bareDiagram .full := by
        rw [Drawing.text, fragments]
        rfl
      have relations : Drawing.relations ⟨"A", [], [], []⟩ = [] := by
        rw [Drawing.relations, relationsOf]
      rw [variantDiagram, requestedDiagram, hashed, drawn]
      show Except.ok (drawingsText [⟨"A", [], [], []⟩]) = _
      rw [drawingsText, tablesText, List.map_singleton, text, List.flatMap_singleton, relations]
      rfl

theorem bareScene_canSave (outcome : Variant → Text → Except Failure (List UInt8)) :
    bareScene.files.CanSaveAll bareRequest (PathName.ofText "out") bareStamp
      (variantDiagram bareRequest mkStdGen [bareModel]) outcome := by
  constructor
  · intro _ variant text drawn
    rw [bareModel_drawn rfl] at drawn
    cases drawn
    cases variant <;> exact ⟨_, rfl⟩
  · intro variant output _ _
    cases variant <;> cases output <;> exact ⟨_, rfl⟩

end EntityDiagram
