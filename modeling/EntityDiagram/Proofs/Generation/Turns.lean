import EntityDiagram.Generation
import EntityDiagram.Proofs.Outcome

/-!
# Tasks that take turns

The two variants are drawn by tasks side by side.  A task goes on by one action at a time, so every
order in which the actions of the two can follow each other is a list of turns.  The run answers
when both tasks have ended.  A task that has ended does nothing in its turns, and with enough turns
every task ends.  Letting one task end before the other starts is one of these orders.
-/

namespace EntityDiagram

open CommandLine (Request)

/-- A task under way: the image that it holds, and the actions that are left or the failure that
has ended it. -/
structure Task where
  image : List UInt8
  rest : Except Failure (List Action)

namespace Task

/-- How a task has ended, if it has. -/
def outcome? (task : Task) : Option (Except Failure Unit) :=
  match task.rest with
  | .ok [] => some (.ok ())
  | .ok (_ :: _) => none
  | .error failure => some (.error failure)

def length (task : Task) : Nat :=
  match task.rest with
  | .ok actions => actions.length
  | .error _ => 0

theorem outcome?_isSome_iff {task : Task} : task.outcome?.isSome = true ↔ task.length = 0 := by
  unfold outcome? length
  split <;> simp_all

end Task

abbrev Tasks := Variant → Task

def Tasks.set (tasks : Tasks) (variant : Variant) (task : Task) : Tasks := fun other =>
  if other = variant then task else tasks other

@[simp]
theorem Tasks.set_self (tasks : Tasks) (variant : Variant) (task : Task) :
    tasks.set variant task variant = task :=
  if_pos rfl

theorem Tasks.set_of_ne {tasks : Tasks} {variant other : Variant} {task : Task}
    (different : other ≠ variant) : tasks.set variant task other = tasks other :=
  if_neg different

@[simp]
theorem Tasks.set_eq (tasks : Tasks) (variant : Variant) :
    tasks.set variant (tasks variant) = tasks := by
  funext other
  by_cases same : other = variant
  · rw [same, set_self]
  · rw [set_of_ne same]

namespace World

variable {m : Type → Type} [Monad m]

/-- Carries out the next action of a task, if any is left. -/
def advance (world : World m) (task : Task) : m Task :=
  match task.rest with
  | .ok (action :: rest) => do
      match ← (world.act task.image action).run with
      | .ok image => return ⟨image, .ok rest⟩
      | .error failure => return ⟨task.image, .error failure⟩
  | _ => return task

def takeTurns (world : World m) : List Variant → Tasks → m Tasks
  | [], tasks => return tasks
  | variant :: turns, tasks => do
      let task ← world.advance (tasks variant)
      world.takeTurns turns (tasks.set variant task)

end World

/-! ### A run in turns -/

abbrev Plans := Variant → Except Failure (PathName × List Action)

def plansOf (request : Request) (stamp : Text) (source : StdGen) (rendering : Rendering)
    (models : List EntityModel) : Plans := fun variant =>
  variantPlan request stamp rendering (variantDiagram request source models variant) variant

def Plans.tasks (plans : Plans) : Tasks := fun variant => ⟨[], (plans variant).map Prod.snd⟩

/-- What a variant answers when its task has ended. -/
def Plans.conclude (plans : Plans) (variant : Variant) (outcome : Except Failure Unit) :
    Except Failure PathName := do
  let (path, _) ← plans variant
  let () ← outcome
  return path

/-- What the run answers, if both tasks have ended. -/
def Plans.answer? (plans : Plans) (tasks : Tasks) : Option (Except Failure (List PathName)) := do
  let minimal ← (tasks .minimal).outcome?
  let full ← (tasks .full).outcome?
  return combine (plans.conclude .minimal minimal) (plans.conclude .full full)

section

variable {m : Type → Type} [Monad m]

def drawInTurns (world : World m) (plans : Plans) (turns : List Variant) :
    m (Option (Except Failure (List PathName))) := do
  return plans.answer? (← world.takeTurns turns plans.tasks)

/-- Generates the diagrams by tasks that take the given turns.  If the models cannot be collected,
there are no tasks. -/
def generateInTurns (world : World m) (request : Request) (stamp : Text) (source : StdGen)
    (rendering : Rendering) (turns : List Variant) :
    m (Option (Except Failure (List PathName))) := do
  world.log .started
  match ← (collectRequested world request).run with
  | .error failure => return some (.error failure)
  | .ok models => drawInTurns world (plansOf request stamp source rendering models) turns

end

/-! ### Enough turns -/

namespace World

variable {m : Type → Type} [Monad m] [LawfulMonad m]

omit [LawfulMonad m] in
theorem advance_of_ended (world : World m) {task : Task} (ended : task.length = 0) :
    world.advance task = return task := by
  unfold advance
  split
  · next rest => simp [Task.length, rest] at ended
  · rfl

theorem takeTurns_append (world : World m) (turns more : List Variant) (tasks : Tasks) :
    world.takeTurns (turns ++ more) tasks =
      world.takeTurns turns tasks >>= world.takeTurns more := by
  induction turns generalizing tasks with
  | nil => simp [takeTurns]
  | cons variant turns ih => simp [takeTurns, ih]

theorem takeTurns_of_ended (world : World m) {tasks : Tasks}
    (ended : ∀ variant, (tasks variant).length = 0) (turns : List Variant) :
    world.takeTurns turns tasks = return tasks := by
  induction turns with
  | nil => rfl
  | cons variant turns ih =>
      rw [takeTurns, advance_of_ended world (ended variant), pure_bind, Tasks.set_eq, ih]

/-- Turns of a single task change nothing but that task. -/
def endTask (world : World m) : (fuel : Nat) → Task → m Task
  | 0, task => return task
  | fuel + 1, task => do world.endTask fuel (← world.advance task)

theorem takeTurns_replicate (world : World m) (count : Nat) (variant : Variant) (tasks : Tasks) :
    world.takeTurns (List.replicate count variant) tasks =
      (fun task => tasks.set variant task) <$> world.endTask count (tasks variant) := by
  induction count generalizing tasks with
  | zero => simp [takeTurns, endTask]
  | succ count ih =>
      have setAgain (task other : Task) : (tasks.set variant task).set variant other =
          tasks.set variant other := by
        funext third
        unfold Tasks.set
        split <;> rfl
      simp [List.replicate_succ, takeTurns, endTask, ih, setAgain]

theorem endTask_of_ended (world : World m) {task : Task} (ended : task.length = 0) (count : Nat) :
    world.endTask count task = return task := by
  induction count with
  | zero => rfl
  | succ count ih => rw [endTask, advance_of_ended world ended, pure_bind, ih]

/-- With a turn for every action a task is carried out as a whole. -/
theorem endTask_eq_actAll (world : World m) {image : List UInt8} {actions : List Action}
    {count : Nat} (enough : actions.length ≤ count) :
    Task.outcome? <$> world.endTask count ⟨image, .ok actions⟩ =
      some <$> (world.actAll image actions).run := by
  induction actions generalizing image count with
  | nil =>
      rw [endTask_of_ended world rfl]
      simp [actAll, Task.outcome?]
  | cons action rest ih =>
      obtain ⟨count, rfl⟩ : ∃ fewer, count = fewer + 1 := ⟨count - 1, by simp at enough; omega⟩
      rw [List.length_cons, Nat.add_le_add_iff_right] at enough
      simp only [endTask, advance, actAll, ExceptT.run_bind, bind_assoc, map_bind]
      refine congrArg _ (funext fun acted => ?_)
      cases acted with
      | ok image =>
          rw [pure_bind]
          exact ih enough
      | error failure =>
          -- A failure ends the task at once, and the turns that are left do nothing.
          rw [pure_bind, endTask_of_ended world rfl]
          simp [Task.outcome?]

end World

/-! ### One task after the other -/

section

variable {m : Type → Type} [Monad m] [LawfulMonad m]

/-- The minimal variant gets all its turns before the full one. -/
def oneByOne (count : Nat) : List Variant :=
  List.replicate count .minimal ++ List.replicate count .full

/-- A variant answers what it concludes from the end of its task. -/
theorem runVariant_eq (world : World m) {request : Request} {stamp : Text} {source : StdGen}
    {rendering : Rendering} {models : List EntityModel} {plans : Plans}
    (planned : plans = plansOf request stamp source rendering models) {variant : Variant}
    {count : Nat} (enough : (plans.tasks variant).length ≤ count) :
    some <$> (runVariant world request stamp rendering
        (variantDiagram request source models variant) variant).run =
      Option.map (plans.conclude variant) <$> Task.outcome? <$>
        world.endTask count (plans.tasks variant) := by
  unfold runVariant
  rw [show variantPlan request stamp rendering (variantDiagram request source models variant)
    variant = plans variant from planned ▸ rfl]
  cases plan : plans variant with
  | error failure =>
      have ended : plans.tasks variant = ⟨[], .error failure⟩ := by
        rw [Plans.tasks, plan]
        rfl
      rw [ended, World.endTask_of_ended world rfl]
      simp only [ExceptT.run_bind, ExceptT.run_mk, map_pure, pure_bind, Task.outcome?,
        Option.map_some, Plans.conclude, plan]
      rfl
  | ok content =>
      obtain ⟨path, actions⟩ := content
      have started : plans.tasks variant = ⟨[], .ok actions⟩ := by
        rw [Plans.tasks, plan]
        rfl
      rw [started] at enough ⊢
      rw [World.endTask_eq_actAll world enough, ← comp_map]
      simp only [ExceptT.run_bind, ExceptT.run_mk, pure_bind, map_bind]
      rw [map_eq_pure_bind]
      refine congrArg _ (funext fun outcome => ?_)
      cases outcome with
      | ok done =>
          simp only [Function.comp_apply, Option.map_some, Plans.conclude, plan, bind_ok]
          exact map_pure ..
      | error failure =>
          simp only [Function.comp_apply, Option.map_some, Plans.conclude, plan, bind_ok]
          exact map_pure ..

/-- Drawing one variant after the other is one of the orders of turns. -/
theorem drawModels_eq_drawInTurns (world : World m) {request : Request} {stamp : Text}
    {source : StdGen} {rendering : Rendering} {models : List EntityModel} {plans : Plans}
    (planned : plans = plansOf request stamp source rendering models) {count : Nat}
    (enough : ∀ variant, (plans.tasks variant).length ≤ count) :
    some <$> drawModels world request stamp source rendering models =
      drawInTurns world plans (oneByOne count) := by
  have answers : some <$> drawModels world request stamp source rendering models =
      (some <$> (runVariant world request stamp rendering
        (variantDiagram request source models .minimal) .minimal).run) >>= fun minimal =>
      (some <$> (runVariant world request stamp rendering
        (variantDiagram request source models .full) .full).run) >>= fun full =>
      return do return combine (← minimal) (← full) := by
    simp [drawModels]
  rw [answers, runVariant_eq world planned (enough _), runVariant_eq world planned (enough _),
    drawInTurns, oneByOne, World.takeTurns_append]
  -- The turns of the minimal variant leave the task of the full one as it was planned.
  simp only [World.takeTurns_replicate, bind_assoc, bind_map_left, Tasks.set_of_ne, ne_eq,
    reduceCtorEq, not_false_eq_true]
  refine congrArg _ (funext fun minimal => congrArg _ (funext fun full => ?_))
  simp only [Plans.answer?, Tasks.set_self, Tasks.set_of_ne, ne_eq, reduceCtorEq,
    not_false_eq_true]
  cases minimal.outcome? <;> cases full.outcome? <;> rfl

theorem drawModels_of_unplanned (world : World m) {request : Request} {stamp : Text}
    {source : StdGen} {rendering : Rendering} {models : List EntityModel}
    {failure : Variant → Failure} (unplanned : ∀ variant,
      plansOf request stamp source rendering models variant = .error (failure variant)) :
    drawModels world request stamp source rendering models =
      return .error (failure .minimal) := by
  have runs (variant : Variant) : (runVariant world request stamp rendering
      (variantDiagram request source models variant) variant).run =
        return .error (failure variant) := by
    unfold runVariant
    rw [show variantPlan request stamp rendering (variantDiagram request source models variant)
      variant = .error (failure variant) from unplanned variant]
    simp only [ExceptT.run_bind, ExceptT.run_mk, pure_bind]
  simp only [drawModels, runs, pure_bind]
  rfl

/-- A task prints and writes its source before it renders, by three actions at most. -/
theorem length_plansOf_tasks_le {request : Request} {stamp : Text} {source : StdGen}
    {rendering : Rendering} {models : List EntityModel} {count : Nat}
    (brief : ∀ diagram path, (rendering diagram path).length + 3 ≤ count) (variant : Variant) :
    ((plansOf request stamp source rendering models).tasks variant).length ≤ count := by
  simp only [Plans.tasks, plansOf, variantPlan, Task.length]
  cases variantDiagram request source models variant with
  | error fault => exact Nat.zero_le _
  | ok diagram =>
      cases request.outputDir with
      | none => exact Nat.zero_le _
      | some directory =>
          show (variantActions request rendering diagram _).length ≤ count
          have short :
              (preparation request diagram (variant.imagePath directory stamp)).length ≤ 3 := by
            unfold preparation
            cases request.debug <;> cases request.emitSource <;> simp
          have := brief diagram (variant.imagePath directory stamp)
          simp only [variantActions, List.length_append]
          omega

/-- The program generates its diagrams in one of the orders of turns. -/
theorem generate_eq_generateInTurns (world : World m) (request : Request) (stamp : Text)
    (source : StdGen) {rendering : Rendering} {count : Nat}
    (brief : ∀ diagram path, (rendering diagram path).length + 3 ≤ count) :
    some <$> (generate world request stamp source rendering).run =
      generateInTurns world request stamp source rendering (oneByOne count) := by
  have drawn (models : List EntityModel) :
      some <$> drawModels world request stamp source rendering models =
        drawInTurns world (plansOf request stamp source rendering models) (oneByOne count) :=
    drawModels_eq_drawInTurns world rfl (length_plansOf_tasks_le brief)
  simp only [generate, generateInTurns, ExceptT.run_bind, ExceptT.run_liftM, map_bind,
    bind_map_left]
  refine congrArg _ (funext fun _ => congrArg _ (funext fun collected => ?_))
  cases collected with
  | ok models => exact drawn models
  | error failure => exact map_pure ..

end

end EntityDiagram
