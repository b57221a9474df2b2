import EntityDiagram.Proofs.FileSystem.Places
import EntityDiagram.Proofs.Generation.Turns

/-!
# What the tasks come to

How a task ends and what it writes is decided when it starts, whatever the other task does between
its actions.  While the tasks take turns the files are those from the start or, once the directory
of the outputs was made, those with the contents that were written so far.  What was written and
what is still to be written is the same all the time.
-/

namespace EntityDiagram

/-! ### Actions foreseen -/

/-- The image that a task holds after an action, if the programs are those that were found. -/
def Action.forecast (found : Text → Option Program) (image : List UInt8) :
    Action → Except Failure (List UInt8)
  | .writeText _ text => (fileBytes text).map fun _ => image
  | .render renderer diagram => renderer.image (found renderer.executable) diagram
  | .receive outcome => outcome
  | .print _ | .makeParents _ | .writeImage _ | .announce _ => .ok image

/-- What an action writes, and where.  A text without bytes leaves an empty file. -/
def Action.writes (image : List UInt8) : Action → List (Location × List UInt8)
  | .writeText path text => [(path.place, (fileBytes text).toOption.getD [])]
  | .writeImage path => [(path.place, image)]
  | .print _ | .makeParents _ | .render _ _ | .receive _ | .announce _ => []

def Action.makes : Action → Bool
  | .makeParents _ => true
  | _ => false

/-- How actions end. -/
def endOf (found : Text → Option Program) (image : List UInt8) : List Action → Except Failure Unit
  | [] => .ok ()
  | action :: rest => do endOf found (← action.forecast found image) rest

/-- What actions write before they end. -/
def writesOf (found : Text → Option Program) (image : List UInt8) :
    List Action → List (Location × List UInt8)
  | [] => []
  | action :: rest =>
      action.writes image ++
        match action.forecast found image with
        | .ok next => writesOf found next rest
        | .error _ => []

/-! ### Paths that can be written -/

/-- The files after a directory and those above it were made. -/
def FileSystem.withDirectory (files : FileSystem) (depth : Nat) (directory : PathName) :
    FileSystem :=
  ((Scene.world.ensureDirectories depth directory).run (.ofFiles files [])).2.files

/-- In these files the directory of a path can be made, and then a file be written there. -/
def FileSystem.CanSave (files : FileSystem) (path : PathName) : Prop :=
  ∃ after, (Scene.world.actAll [] [.makeParents path, .writeImage path]).run.run
    (.ofFiles files []) = (.ok (), after)

namespace Scene

/-- The world of a scene where programs are found in another way. -/
def worldWith (program : Text → StateM Scene (Option Program)) : World (StateM Scene) :=
  { world with program }

/-- From the files at the start, a file can be written at a path once its directory is made,
which leaves the files `ready`. -/
structure Opens (start ready : FileSystem) (path : PathName) : Prop where
  prepares : start.Prepares ready
  makes : ∀ scene : Scene, scene.files = start →
    (world.ensureDirectories path.parts.length path.parent).run scene =
      (.ok (), { scene with files := ready })
  present : HasDirectory ready path.parent
  encoded : systemBytes path.text = .ok path.text.nameBytes
  can : ready.CanWrite path.text.nameBytes

theorem run_writeFile (path : PathName) (content : List UInt8) (scene : Scene) :
    (world.writeFile path content).run scene =
      match onPath path fun bytes => scene.files.writeFile bytes content with
      | .ok later => (.ok (), { scene with files := later })
      | .error fault => (.error fault, scene) := by
  have unfolded : (world.writeFile path content).run scene =
      StateT.run (match onPath path fun bytes => scene.files.writeFile bytes content with
        | .ok files => do
            set { scene with files := files }
            return .ok ()
        | .error fault => return .error fault : StateM Scene (Except PathFault Unit)) scene := rfl
  rw [unfolded]
  cases onPath path fun bytes => scene.files.writeFile bytes content <;> rfl

theorem run_onPath {α : Type} (operation : StateM Scene (Except PathFault α)) (scene : Scene) :
    (World.onPath operation).run.run scene =
      (((operation.run scene).1).mapError .path, (operation.run scene).2) :=
  rfl

theorem run_bind {α β : Type} (step : ExceptT Failure (StateM Scene) α)
    (next : α → ExceptT Failure (StateM Scene) β) (scene : Scene) :
    (step >>= next).run.run scene =
      match step.run.run scene with
      | (.ok answer, after) => (next answer).run.run after
      | (.error failure, after) => (.error failure, after) := by
  rw [ExceptT.run_bind, StateT.run_bind]
  rcases step.run.run scene with ⟨failure | answer, after⟩ <;> rfl

theorem ensureDirectories_worldWith (program : Text → StateM Scene (Option Program))
    (depth : Nat) (path : PathName) :
    (worldWith program).ensureDirectories depth path = world.ensureDirectories depth path := by
  induction depth generalizing path with
  | zero => rfl
  | succ depth ih =>
      unfold World.ensureDirectories
      rw [ih]
      rfl

@[simp]
theorem worldWith_writeFile (program : Text → StateM Scene (Option Program)) :
    (worldWith program).writeFile = world.writeFile :=
  rfl

theorem run_makeParents {program : Text → StateM Scene (Option Program)} (image : List UInt8)
    (path : PathName) (scene : Scene) :
    ((worldWith program).act image (.makeParents path)).run.run scene =
      let made := (world.ensureDirectories path.parts.length path.parent).run scene
      (made.1.mapError .path |>.map fun _ => image, made.2) := by
  have same : (worldWith program).ensureDirectories path.parts.length path.parent =
      world.ensureDirectories path.parts.length path.parent :=
    ensureDirectories_worldWith ..
  rw [World.act, run_bind, run_onPath, same]
  rcases (world.ensureDirectories path.parts.length path.parent).run scene with
    ⟨fault | _, after⟩ <;> rfl

theorem run_bind_eq_ok_iff {α β : Type} {step : ExceptT Failure (StateM Scene) α}
    {next : α → ExceptT Failure (StateM Scene) β} {scene after : Scene} {answer : β} :
    (step >>= next).run.run scene = (.ok answer, after) ↔
      ∃ middle between, step.run.run scene = (.ok middle, between) ∧
        (next middle).run.run between = (.ok answer, after) := by
  rw [run_bind]
  constructor
  · intro ran
    rcases stepped : step.run.run scene with ⟨failure | middle, between⟩
    · rw [stepped] at ran
      cases ran
    · rw [stepped] at ran
      exact ⟨middle, between, rfl, ran⟩
  · rintro ⟨middle, between, stepped, ran⟩
    rw [stepped]
    exact ran

theorem run_onPath_eq_ok {α : Type} {operation : StateM Scene (Except PathFault α)}
    {scene after : Scene} {answer : α}
    (ran : (World.onPath operation).run.run scene = (.ok answer, after)) :
    operation.run scene = (.ok answer, after) := by
  rw [run_onPath] at ran
  obtain ⟨answered, rfl⟩ := Prod.mk.inj ran
  exact Prod.ext (mapError_eq_ok_iff.mp answered) rfl

theorem opens_of_canSave {files : FileSystem} {path : PathName} (can : files.CanSave path) :
    Opens files (files.withDirectory path.parts.length path.parent) path := by
  obtain ⟨after, saved⟩ := can
  obtain ⟨image, between, acted, rest⟩ := run_bind_eq_ok_iff.mp saved
  obtain ⟨_, prepared, made, returned⟩ := run_bind_eq_ok_iff.mp acted
  obtain rfl : prepared = between := (Prod.mk.inj returned).2
  obtain ⟨_, _, acted, -⟩ := run_bind_eq_ok_iff.mp rest
  obtain ⟨_, _, wrote, -⟩ := run_bind_eq_ok_iff.mp acted
  replace made := run_onPath_eq_ok made
  replace wrote := run_onPath_eq_ok wrote
  have preparing : Preparing (world.ensureDirectories path.parts.length path.parent) :=
    ensureDirectories_preparing _
  have ready : files.withDirectory path.parts.length path.parent = prepared.files := by
    rw [FileSystem.withDirectory, made]
  rw [run_writeFile] at wrote
  cases written : onPath path fun bytes => prepared.files.writeFile bytes image with
  | error fault =>
      rw [written] at wrote
      cases wrote
  | ok later =>
      obtain ⟨bytes, encoded, written⟩ := onPath_eq_ok_iff.mp written
      have same := systemBytes_eq_ok encoded
      subst same
      rw [ready]
      exact {
        prepares := by
          have prepares := preparing.prepares (.ofFiles files [])
          rwa [made] at prepares
        makes := fun scene same => by rw [preparing.onFiles (.ofFiles files []) scene same, made]
        present := hasDirectory_of_ensureDirectories made
        encoded
        can := FileSystem.canWrite_iff.mp ⟨later, written⟩ }

/-! ### Turns -/

/-- The files while tasks take turns: those from the start, or what was written so far behind the
directory that was made. -/
inductive Stage (start ready : FileSystem) :
    (made : Bool) → (written : List (Location × List UInt8)) → FileSystem → Prop where
  | before : Stage start ready false [] start
  | behind {written : List (Location × List UInt8)} (prepares : start.Prepares ready)
      (spares : ready.Spares written) : Stage start ready true written (ready.store written)

/-- What an action needs: a file is written only after its directory was made, and a program that
is run is the one that was found. -/
def Fits (program : Text → StateM Scene (Option Program)) (found : Text → Option Program)
    (start ready : FileSystem) (made : Bool) : Action → Prop
  | .makeParents path => Opens start ready path
  | .writeText path _ | .writeImage path => made = true ∧ Opens start ready path
  | .render renderer _ =>
      ∀ scene, (program renderer.executable).run scene = (found renderer.executable, scene)
  | .print _ | .receive _ | .announce _ => True

variable {program : Text → StateM Scene (Option Program)} {found : Text → Option Program}
  {start ready : FileSystem} {made : Bool} {written : List (Location × List UInt8)}

theorem run_writeFile_of_opens {path : PathName} (opens : Opens start ready path) {scene : Scene}
    (stage : Stage start ready true written scene.files) (content : List UInt8) :
    ∃ after, (world.writeFile path content).run scene = (.ok (), after) ∧
      Stage start ready true (written ++ [(path.place, content)]) after.files := by
  generalize current : scene.files = files at stage
  cases stage with
  | behind prepares spares =>
      have stored := (opens.can.store spares).writeFile content
      rw [← FileSystem.store_append, ← current] at stored
      have answered : onPath path (fun bytes => scene.files.writeFile bytes content) =
          .ok (ready.store (written ++ [(path.place, content)])) :=
        onPath_eq_ok_iff.mpr ⟨_, opens.encoded, stored⟩
      have sparesMore : ready.Spares (written ++ [(path.place, content)]) := by
        rw [FileSystem.Spares, List.forall_mem_append, List.forall_mem_singleton]
        exact ⟨spares, opens.can.isFree⟩
      refine ⟨{ scene with files := ready.store (written ++ [(path.place, content)]) }, ?_,
        .behind prepares sparesMore⟩
      rw [run_writeFile, answered]

/-- An action ends as foreseen, and writes what was foreseen. -/
theorem run_act {scene : Scene} {action : Action}
    (stage : Stage start ready made written scene.files)
    (fits : Fits program found start ready made action) (image : List UInt8) :
    ∃ after, ((worldWith program).act image action).run.run scene =
        (action.forecast found image, after) ∧
      Stage start ready (made || action.makes) (written ++ action.writes image) after.files := by
  have unchanged : Stage start ready (made || false) (written ++ []) scene.files := by
    rw [Bool.or_false, List.append_nil]
    exact stage
  cases action with
  | print text => exact ⟨{ scene with printed := scene.printed ++ text }, rfl, unchanged⟩
  | receive outcome => exact ⟨scene, rfl, unchanged⟩
  | announce path =>
      exact ⟨{ scene with logged := scene.logged ++ [.written path] }, rfl, unchanged⟩
  | render renderer diagram =>
      have ran : ((worldWith program).render renderer diagram).run.run scene =
          (renderer.image ((program renderer.executable).run scene).1 diagram,
            ((program renderer.executable).run scene).2) := rfl
      refine ⟨scene, ?_, unchanged⟩
      rw [World.act, ran, fits scene]
      rfl
  | makeParents path =>
      obtain ⟨prepares, makes, present, -, -⟩ := fits
      rw [run_makeParents]
      generalize current : scene.files = files at stage
      cases stage with
      | before =>
          rw [makes scene current]
          exact ⟨_, rfl, .behind prepares fun write absent => by cases absent⟩
      | behind prepares spares =>
          -- The other task was here before: the directory is there and is left as it is.
          obtain ⟨bytes, encoded, present⟩ := present
          have there : HasDirectory scene.files path.parent :=
            ⟨bytes, encoded, current ▸ present.mono (FileSystem.within_store spares)⟩
          rw [ensureDirectories_of_hasDirectory _ there]
          exact ⟨scene, rfl, unchanged⟩
  | writeText path text =>
      obtain ⟨rfl, opens⟩ := fits
      have wrote := run_writeFile_of_opens opens stage ((fileBytes text).toOption.getD [])
      obtain ⟨after, wrote, stage⟩ := wrote
      refine ⟨after, ?_, stage⟩
      rw [World.act, run_bind, World.writeText, Action.forecast]
      cases encoded : fileBytes text with
      | ok content =>
          rw [encoded] at wrote
          have ran : (world.writeFile path content).run scene = (.ok (), after) := wrote
          rw [run_onPath, worldWith_writeFile, ran]
          rfl
      | error failure =>
          -- The file is opened, and emptied, before the text turns out to have no bytes.
          rw [encoded] at wrote
          have ran : (world.writeFile path []).run scene = (.ok (), after) := wrote
          rw [run_bind, run_onPath, worldWith_writeFile, ran]
          rfl
  | writeImage path =>
      obtain ⟨rfl, opens⟩ := fits
      obtain ⟨after, wrote, stage⟩ := run_writeFile_of_opens opens stage image
      refine ⟨after, ?_, stage⟩
      rw [World.act, run_bind, run_onPath, worldWith_writeFile, wrote]
      rfl

/-! ### Tasks that take turns -/

/-- Every action until the end of a task finds what it needs. -/
def AllFit (program : Text → StateM Scene (Option Program)) (found : Text → Option Program)
    (start ready : FileSystem) (made : Bool) (image : List UInt8) : List Action → Prop
  | [] => True
  | action :: rest =>
      Fits program found start ready made action ∧
        ∀ next, action.forecast found image = .ok next →
          AllFit program found start ready (made || action.makes) next rest

theorem Fits.mono {later : Bool} {action : Action} (keeps : made = true → later = true)
    (fits : Fits program found start ready made action) :
    Fits program found start ready later action := by
  cases action with
  | writeText | writeImage => exact ⟨keeps fits.1, fits.2⟩
  | print | makeParents | render | receive | announce => exact fits

theorem AllFit.mono {later : Bool} {image : List UInt8} {actions : List Action}
    (keeps : made = true → later = true)
    (fit : AllFit program found start ready made image actions) :
    AllFit program found start ready later image actions := by
  induction actions generalizing made later image with
  | nil => trivial
  | cons action rest ih =>
      refine ⟨fit.1.mono keeps, fun next foreseen => ih (fun holds => ?_) (fit.2 next foreseen)⟩
      rw [Bool.or_eq_true] at holds ⊢
      exact holds.imp_left keeps

end Scene

namespace Task

/-- A task after its next action, as foreseen. -/
def next (found : Text → Option Program) (task : Task) : Task :=
  match task.rest with
  | .ok (action :: rest) =>
      match action.forecast found task.image with
      | .ok image => ⟨image, .ok rest⟩
      | .error failure => ⟨task.image, .error failure⟩
  | _ => task

def makes (task : Task) : Bool :=
  match task.rest with
  | .ok (action :: _) => action.makes
  | _ => false

def wrote (task : Task) : List (Location × List UInt8) :=
  match task.rest with
  | .ok (action :: _) => action.writes task.image
  | _ => []

def ending (found : Text → Option Program) (task : Task) : Except Failure Unit :=
  task.rest >>= endOf found task.image

/-- What a task is still to write. -/
def writes (found : Text → Option Program) (task : Task) : List (Location × List UInt8) :=
  match task.rest with
  | .ok actions => writesOf found task.image actions
  | .error _ => []

def Fits (program : Text → StateM Scene (Option Program)) (found : Text → Option Program)
    (start ready : FileSystem) (made : Bool) (task : Task) : Prop :=
  ∀ actions, task.rest = .ok actions →
    Scene.AllFit program found start ready made task.image actions

variable {program : Text → StateM Scene (Option Program)} {found : Text → Option Program}
  {start ready : FileSystem} {made : Bool} {task : Task}

theorem outcome?_of_ended (ended : task.length = 0) (found : Text → Option Program) :
    task.outcome? = some (task.ending found) := by
  obtain ⟨image, rest⟩ := task
  rcases rest with failure | (_ | ⟨action, actions⟩)
  · rfl
  · rfl
  · cases ended

theorem writes_of_ended (ended : task.length = 0) (found : Text → Option Program) :
    task.writes found = [] := by
  obtain ⟨image, rest⟩ := task
  rcases rest with failure | (_ | ⟨action, actions⟩)
  · rfl
  · rfl
  · cases ended

@[simp]
theorem ending_next : (task.next found).ending found = task.ending found := by
  obtain ⟨image, rest⟩ := task
  rcases rest with failure | (_ | ⟨action, actions⟩)
  · rfl
  · rfl
  · simp only [next, ending]
    cases foreseen : action.forecast found image with
    | error failure =>
        simp [endOf, bind_ok, foreseen]
        rfl
    | ok image => simp [endOf, bind_ok, foreseen]

theorem length_next_le : (task.next found).length ≤ task.length - 1 := by
  obtain ⟨image, rest⟩ := task
  rcases rest with failure | (_ | ⟨action, actions⟩)
  · exact Nat.zero_le _
  · exact Nat.zero_le _
  · simp only [next]
    cases action.forecast found image <;> simp [length]

theorem writes_eq (found : Text → Option Program) :
    task.writes found = task.wrote ++ (task.next found).writes found := by
  obtain ⟨image, rest⟩ := task
  rcases rest with failure | (_ | ⟨action, actions⟩)
  · rfl
  · rfl
  · simp only [next, writes, wrote, writesOf]
    cases action.forecast found image <;> rfl

theorem Fits.next (fits : task.Fits program found start ready made) :
    (task.next found).Fits program found start ready (made || task.makes) := by
  obtain ⟨image, rest⟩ := task
  rcases rest with failure | (_ | ⟨action, actions⟩)
  · intro actions same
    cases same
  · intro actions same
    cases same
    trivial
  · obtain ⟨-, rest⟩ := fits _ rfl
    intro others same
    simp only [Task.next] at same ⊢
    cases foreseen : action.forecast found image with
    | error failure => simp [foreseen] at same
    | ok next =>
        simp only [foreseen, Except.ok.injEq] at same ⊢
        subst same
        exact rest next foreseen

theorem Fits.mono {later : Bool} (keeps : made = true → later = true)
    (fits : task.Fits program found start ready made) :
    task.Fits program found start ready later :=
  fun actions same => (fits actions same).mono keeps

end Task

def Tasks.turn (found : Text → Option Program) (tasks : Tasks) (variant : Variant) : Tasks :=
  tasks.set variant ((tasks variant).next found)

def Tasks.after (found : Text → Option Program) (tasks : Tasks) (turns : List Variant) : Tasks :=
  turns.foldl (Tasks.turn found) tasks

theorem Tasks.ending_after {found : Text → Option Program} {tasks : Tasks}
    (turns : List Variant) (variant : Variant) :
    (tasks.after found turns variant).ending found = (tasks variant).ending found := by
  induction turns generalizing tasks with
  | nil => rfl
  | cons next turns ih =>
      refine (ih ..).trans ?_
      unfold turn
      by_cases same : variant = next
      · rw [same, set_self, Task.ending_next]
      · rw [set_of_ne same]

theorem Tasks.length_after_le {found : Text → Option Program} {tasks : Tasks}
    (turns : List Variant) (variant : Variant) :
    (tasks.after found turns variant).length ≤ (tasks variant).length - turns.count variant := by
  induction turns generalizing tasks with
  | nil => exact Nat.le_refl _
  | cons next turns ih =>
      refine Nat.le_trans (ih ..) ?_
      unfold turn
      by_cases same : variant = next
      · subst same
        have shorter : ((tasks variant).next found).length ≤ (tasks variant).length - 1 :=
          Task.length_next_le
        rw [set_self, List.count_cons_self]
        omega
      · refine Nat.le_of_eq ?_
        rw [set_of_ne same, List.count_cons_of_ne (Ne.symm same)]

namespace Scene

variable {program : Text → StateM Scene (Option Program)} {found : Text → Option Program}
  {start ready : FileSystem} {made : Bool} {written : List (Location × List UInt8)}
  {total : Location × List UInt8 → Prop}

theorem run_advance {scene : Scene} {task : Task}
    (stage : Stage start ready made written scene.files)
    (fits : task.Fits program found start ready made) :
    ∃ after, ((worldWith program).advance task).run scene = (task.next found, after) ∧
      Stage start ready (made || task.makes) (written ++ task.wrote) after.files := by
  obtain ⟨image, rest⟩ := task
  rcases rest with failure | (_ | ⟨action, actions⟩)
  · exact ⟨scene, rfl, by simpa [Task.makes, Task.wrote] using stage⟩
  · exact ⟨scene, rfl, by simpa [Task.makes, Task.wrote] using stage⟩
  · obtain ⟨fits, -⟩ := fits _ rfl
    obtain ⟨after, acted, stage⟩ := run_act stage fits image
    refine ⟨after, ?_, stage⟩
    simp only [World.advance, StateT.run_bind, acted, Task.next]
    cases action.forecast found image <;> rfl

/-- Between two turns: the files are at some stage, every task finds what it needs, and what was
written or is still to be written is what was to be written at the start. -/
structure Underway (program : Text → StateM Scene (Option Program))
    (found : Text → Option Program) (start ready : FileSystem)
    (total : Location × List UInt8 → Prop) (made : Bool)
    (written : List (Location × List UInt8)) (tasks : Tasks) (files : FileSystem) : Prop where
  stage : Stage start ready made written files
  fits : ∀ variant, (tasks variant).Fits program found start ready made
  writes : ∀ write,
    write ∈ written ∨ (∃ variant, write ∈ (tasks variant).writes found) ↔ total write

theorem run_turn {scene : Scene} {tasks : Tasks}
    (underway : Underway program found start ready total made written tasks scene.files)
    (variant : Variant) :
    ∃ after, ((worldWith program).advance (tasks variant)).run scene =
        ((tasks variant).next found, after) ∧
      Underway program found start ready total (made || (tasks variant).makes)
        (written ++ (tasks variant).wrote) (tasks.turn found variant) after.files := by
  obtain ⟨after, advanced, stage⟩ := run_advance underway.stage (underway.fits variant)
  refine ⟨after, advanced, stage, fun other => ?_, fun write => ?_⟩
  · by_cases same : other = variant
    · subst same
      rw [Tasks.turn, Tasks.set_self]
      exact (underway.fits other).next
    · rw [Tasks.turn, Tasks.set_of_ne same]
      exact (underway.fits other).mono fun holds => by rw [holds, Bool.true_or]
  · -- What the action writes is no longer left to be written, but it is written now.
    rw [← underway.writes write, List.mem_append, or_assoc]
    refine or_congr_right ⟨?_, ?_⟩
    · rintro (now | ⟨other, later⟩)
      · exact ⟨variant, by rw [Task.writes_eq found]; exact List.mem_append_left _ now⟩
      · by_cases same : other = variant
        · subst same
          rw [Tasks.turn, Tasks.set_self] at later
          exact ⟨other, by rw [Task.writes_eq found]; exact List.mem_append_right _ later⟩
        · rw [Tasks.turn, Tasks.set_of_ne same] at later
          exact ⟨other, later⟩
    · rintro ⟨other, toWrite⟩
      by_cases same : other = variant
      · subst same
        rw [Task.writes_eq found, List.mem_append] at toWrite
        exact toWrite.imp_right fun later => ⟨other, by rwa [Tasks.turn, Tasks.set_self]⟩
      · exact .inr ⟨other, by rwa [Tasks.turn, Tasks.set_of_ne same]⟩

/-- Every order of turns leads to the same tasks, and the files hold what they wrote. -/
theorem run_takeTurns {scene : Scene} {tasks : Tasks}
    (underway : Underway program found start ready total made written tasks scene.files)
    (turns : List Variant) :
    ∃ after later more, ((worldWith program).takeTurns turns tasks).run scene =
        (tasks.after found turns, after) ∧
      Underway program found start ready total later more (tasks.after found turns)
        after.files := by
  induction turns generalizing scene tasks made written with
  | nil => exact ⟨scene, made, written, rfl, underway⟩
  | cons variant turns ih =>
      obtain ⟨between, advanced, underway⟩ := run_turn underway variant
      obtain ⟨after, later, more, ran, underway⟩ := ih underway
      refine ⟨after, later, more, ?_, underway⟩
      rw [World.takeTurns, StateT.run_bind, advanced]
      exact ran

theorem run_endTask {scene : Scene} {tasks : Tasks}
    (underway : Underway program found start ready total made written tasks scene.files)
    (variant : Variant) (count : Nat) :
    (((worldWith program).endTask count (tasks variant)).run scene).1 =
      tasks.after found (List.replicate count variant) variant := by
  obtain ⟨after, later, more, ran, -⟩ := run_takeTurns underway (List.replicate count variant)
  rw [World.takeTurns_replicate, StateT.run_map] at ran
  have last : tasks.set variant (((worldWith program).endTask count (tasks variant)).run scene).1 =
      tasks.after found (List.replicate count variant) :=
    congrArg Prod.fst ran
  rw [← last, Tasks.set_self]

/-- A place where nothing was to be written holds what it held. -/
theorem Underway.content_elsewhere {tasks : Tasks} {files : FileSystem}
    (underway : Underway program found start ready total made written tasks files)
    {location : Location} (elsewhere : ∀ write, total write → write.1 ≠ location) :
    files.content? location = start.content? location := by
  obtain ⟨stage, -, writes⟩ := underway
  cases stage with
  | before => rfl
  | behind prepares spares =>
      have notWritten : location ∉ written.map Prod.fst := by
        intro member
        obtain ⟨write, inWritten, same⟩ := List.mem_map.mp member
        exact elsewhere write ((writes write).mp (.inl inWritten)) same
      rw [FileSystem.content?_store_of_not_mem spares notWritten]
      exact prepares.contents location

/-- When all tasks have ended, a place holds what was to be written there, if nothing else was. -/
theorem Underway.content_of_ended {tasks : Tasks} {scene : Scene}
    (underway : Underway program found start ready total made written tasks scene.files)
    (ended : ∀ variant, (tasks variant).length = 0) {path : PathName}
    (opens : Opens start ready path) {content : List UInt8} (toWrite : total (path.place, content))
    (only : ∀ write, total write → write.1 = path.place → write.2 = content) :
    scene.readFile path = .ok content := by
  obtain ⟨stage, -, writes⟩ := underway
  have inWritten : (path.place, content) ∈ written := by
    refine ((writes _).mpr toWrite).resolve_right ?_
    rintro ⟨variant, later⟩
    rw [Task.writes_of_ended (ended variant)] at later
    cases later
  generalize current : scene.files = files at stage
  cases stage with
  | before => cases inWritten
  | behind prepares spares =>
      have holds := FileSystem.content?_store_of_mem spares inWritten fun write member =>
        only write ((writes write).mp (.inl member))
      have look := (opens.can.store spares).look holds
      rw [← current] at look
      have answered : onPath path scene.files.look = .ok (.file content) :=
        onPath_eq_ok_iff.mpr ⟨_, opens.encoded, look⟩
      rw [readFile, answered]
      rfl

end Scene

end EntityDiagram
