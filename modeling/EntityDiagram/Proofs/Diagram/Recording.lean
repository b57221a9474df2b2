import EntityDiagram.Diagram.Recording
import EntityDiagram.Diagram.TableName
import EntityDiagram.Proofs.Diagram.Columns
import EntityDiagram.Proofs.Diagram.Drawing

/-!
# Recordings

A recorder is asked again and again to emit structures and to render its models, and a name that is
refused may end a walk in the middle.  Whatever a walk meets, it only adds to the record, and what
it answers and adds does not depend on the record.  The main statement is `calls_independent`: in
every run of calls each call does what it does for a new recorder.  When no name is refused, that
is what is drawn and recorded by `Recorder.emit` and `Recorder.render`.
-/

namespace EntityDiagram

/-- A walk with a record.  A refused name ends the walk and leaves the record as it is then. -/
abbrev Recording (α : Type) := ExceptT Fault (StateM Recorder) α

namespace Recording

section

variable {α β : Type}

/-- What a recording answers, and the record that it leaves. -/
def runFrom (recording : Recording α) (recorder : Recorder) : Except Fault α × Recorder :=
  Id.run (recording.run.run recorder)

theorem runFrom_pure (answer : α) (recorder : Recorder) :
    runFrom (pure answer) recorder = (.ok answer, recorder) :=
  rfl

theorem runFrom_bind (first : Recording α) (next : α → Recording β) (recorder : Recorder) :
    runFrom (first >>= next) recorder =
      match runFrom first recorder with
      | (.ok answer, later) => runFrom (next answer) later
      | (.error fault, later) => (.error fault, later) := by
  cases ran : runFrom first recorder with
  | mk answer later =>
      rw [runFrom] at ran ⊢
      rw [ExceptT.run_bind, StateT.run_bind, Id.run_bind, ran]
      cases answer <;> rfl

theorem runFrom_map (change : α → β) (recording : Recording α) (recorder : Recorder) :
    runFrom (change <$> recording) recorder =
      Prod.map (Except.map change) id (runFrom recording recorder) := by
  rw [map_eq_pure_bind, runFrom_bind]
  rcases runFrom recording recorder with ⟨_ | _, _⟩ <;> rfl

theorem runFrom_note (relation : Relation) (recorder : Recorder) :
    runFrom (note relation) recorder = (.ok (), ⟨recorder.relations ++ [relation]⟩) :=
  rfl

theorem runFrom_lift (step : Except Fault α) (recorder : Recorder) :
    runFrom (liftM step) recorder = (step, recorder) :=
  rfl

/-! ### Adding to a record -/

/-- From every record the same answer is given and the same relations are added. -/
def Adds (recording : Recording α) : Prop :=
  ∃ answer relations, ∀ recorder,
    runFrom recording recorder = (answer, ⟨recorder.relations ++ relations⟩)

theorem Adds.runFrom_eq {recording : Recording α} (adds : Adds recording) (recorder : Recorder) :
    runFrom recording recorder =
      ((runFrom recording .start).1,
        ⟨recorder.relations ++ (runFrom recording .start).2.relations⟩) := by
  obtain ⟨answer, relations, runs⟩ := adds
  rw [runs, runs]
  rfl

theorem adds_pure (answer : α) : Adds (pure answer) :=
  ⟨.ok answer, [], fun recorder => by rw [runFrom_pure, List.append_nil]⟩

theorem adds_lift (step : Except Fault α) : Adds (liftM step) :=
  ⟨step, [], fun recorder => by rw [runFrom_lift, List.append_nil]⟩

theorem adds_note (relation : Relation) : Adds (note relation) :=
  ⟨.ok (), [relation], runFrom_note relation⟩

theorem Adds.bind {first : Recording α} {next : α → Recording β} (adds : Adds first)
    (addsNext : ∀ answer, Adds (next answer)) : Adds (first >>= next) := by
  obtain ⟨answer | answer, relations, runs⟩ := adds
  · exact ⟨.error answer, relations, fun recorder => by rw [runFrom_bind, runs]⟩
  · obtain ⟨answerNext, more, runsNext⟩ := addsNext answer
    refine ⟨answerNext, relations ++ more, fun recorder => ?_⟩
    rw [runFrom_bind, runs]
    simp only [runsNext, List.append_assoc]

theorem Adds.map {recording : Recording α} (adds : Adds recording) (change : α → β) :
    Adds (change <$> recording) := by
  rw [map_eq_pure_bind]
  exact adds.bind fun answer => adds_pure (change answer)

theorem adds_forM_note (relations : List Relation) : Adds (relations.forM note) := by
  induction relations with
  | nil => exact adds_pure ()
  | cons relation relations ih => exact (adds_note relation).bind fun _ => ih

end

/-! ### Walks -/

section

variable (naming : Naming (Except Fault))

theorem adds_drawNodes_of_forall {table : Text} {nodes : List Node}
    (each : ∀ node ∈ nodes, Adds (drawNode naming.lift table node)) :
    Adds (drawNodes naming.lift table nodes) := by
  induction nodes with
  | nil =>
      rw [drawNodes]
      exact adds_pure []
  | cons node nodes ih =>
      obtain ⟨first, others⟩ := List.forall_mem_cons.mp each
      rw [drawNodes]
      exact first.bind fun field => (ih others).bind fun fields => adds_pure (field :: fields)

theorem adds_drawNode (table : Text) (node : Node) : Adds (drawNode naming.lift table node) := by
  induction node using Node.induction_on generalizing table with
  | mk name kind options children below =>
      rw [drawNode]
      split
      · exact (adds_forM_note _).bind fun _ => adds_pure _
      · have addsChildren (target : Text) : Adds (drawChildren naming.lift target children) := by
          cases children with
          | none =>
              rw [drawChildren]
              exact adds_pure []
          | some nodes =>
              rw [drawChildren]
              exact adds_drawNodes_of_forall naming fun child member =>
                below nodes rfl child member target
        refine (adds_lift _).bind fun target => (adds_note _).bind fun _ => ?_
        exact (addsChildren target).bind fun fields => adds_pure _

theorem adds_drawNodes (table : Text) (nodes : List Node) :
    Adds (drawNodes naming.lift table nodes) :=
  adds_drawNodes_of_forall naming fun node _ => adds_drawNode naming table node

theorem adds_emit (name : Text) (forest : Forest) : Adds (emit naming.lift name forest) :=
  (adds_drawNodes naming name forest).map _

/-- A rendering starts anew. -/
theorem runFrom_render (models : List EntityModel) (recorder : Recorder) :
    runFrom (render naming.lift models) recorder = runFrom (render naming.lift models) .start :=
  rfl

end

/-! ### Answers with their records -/

section

variable {α β : Type}

/-- The answer of a recording with the record that it leaves, if no name is refused. -/
def settle (recording : Recording α) (recorder : Recorder) : Except Fault (α × Recorder) :=
  (fun answer => (answer, (runFrom recording recorder).2)) <$> (runFrom recording recorder).1

theorem settle_pure (answer : α) (recorder : Recorder) :
    settle (pure answer) recorder = .ok (answer, recorder) :=
  rfl

theorem settle_lift (step : Except Fault α) (recorder : Recorder) :
    settle (liftM step) recorder = (fun answer => (answer, recorder)) <$> step :=
  rfl

theorem settle_note (relation : Relation) (recorder : Recorder) :
    settle (note relation) recorder = .ok ((), ⟨recorder.relations ++ [relation]⟩) :=
  rfl

theorem settle_bind (first : Recording α) (next : α → Recording β) (recorder : Recorder) :
    settle (first >>= next) recorder =
      settle first recorder >>= fun answered => settle (next answered.1) answered.2 := by
  rw [settle, settle, runFrom_bind]
  rcases runFrom first recorder with ⟨_ | _, _⟩ <;> rfl

theorem settle_map (change : α → β) (recording : Recording α) (recorder : Recorder) :
    settle (change <$> recording) recorder = Prod.map change id <$> settle recording recorder := by
  rw [settle, settle, runFrom_map]
  rcases runFrom recording recorder with ⟨_ | _, _⟩ <;> rfl

theorem settle_forM_note (relations : List Relation) (recorder : Recorder) :
    settle (relations.forM note) recorder = .ok ((), ⟨recorder.relations ++ relations⟩) := by
  induction relations generalizing recorder with
  | nil =>
      rw [List.append_nil]
      rfl
  | cons relation relations ih =>
      have rest := ih ⟨recorder.relations ++ [relation]⟩
      rw [List.append_assoc] at rest
      exact rest

end

section

variable (naming : Naming (Except Fault))

/-- A recording of a level answers the fields that are drawn, with their relations recorded. -/
theorem settle_drawNodes_of_forall {table : Text} {nodes : List Node}
    (each : ∀ node ∈ nodes, ∀ recorder : Recorder,
      settle (drawNode naming.lift table node) recorder =
        (fun field => (field, ⟨recorder.relations ++ relationsOf table [field]⟩)) <$>
          EntityDiagram.drawNode naming table node) (recorder : Recorder) :
    settle (drawNodes naming.lift table nodes) recorder =
      (fun fields => (fields, ⟨recorder.relations ++ relationsOf table fields⟩)) <$>
        EntityDiagram.drawNodes naming table nodes := by
  induction nodes generalizing recorder with
  | nil =>
      rw [drawNodes, EntityDiagram.drawNodes, settle_pure, map_pure, relationsOf, List.append_nil]
      rfl
  | cons node nodes ih =>
      obtain ⟨first, others⟩ := List.forall_mem_cons.mp each
      rw [drawNodes, EntityDiagram.drawNodes, settle_bind, first]
      cases EntityDiagram.drawNode naming table node with
      | error fault => rfl
      | ok field =>
          simp only [map_ok, bind_ok]
          rw [← map_eq_pure_bind, ← map_eq_pure_bind, settle_map, ih others]
          cases EntityDiagram.drawNodes naming table nodes with
          | error fault => rfl
          | ok fields =>
              have together : relationsOf table (field :: fields) =
                  relationsOf table [field] ++ relationsOf table fields :=
                relationsOf_append table [field] fields
              simp only [map_ok, Prod.map, id, together, List.append_assoc]

theorem settle_drawNode (table : Text) (node : Node) (recorder : Recorder) :
    settle (drawNode naming.lift table node) recorder =
      (fun field => (field, ⟨recorder.relations ++ relationsOf table [field]⟩)) <$>
        EntityDiagram.drawNode naming table node := by
  induction node using Node.induction_on generalizing table recorder with
  | mk name kind options children below =>
      rw [drawNode, EntityDiagram.drawNode]
      split
      · rw [settle_bind, settle_forM_note, bind_ok, settle_pure]
        simp [relationsOf, pure, Except.pure, Functor.map, Except.map]
      · have named : settle (naming.lift.nested table name) recorder =
            (fun target => (target, recorder)) <$> naming.nested table name :=
          settle_lift _ recorder
        have drawn (target : Text) (later : Recorder) :
            settle (drawChildren naming.lift target children) later =
              (fun fields => (fields, ⟨later.relations ++ relationsOf target fields⟩)) <$>
                EntityDiagram.drawChildren naming target children := by
          cases children with
          | none =>
              rw [drawChildren, EntityDiagram.drawChildren, settle_pure, map_pure, relationsOf,
                List.append_nil]
              rfl
          | some nodes =>
              rw [drawChildren, EntityDiagram.drawChildren]
              exact settle_drawNodes_of_forall naming
                (fun child member => below nodes rfl child member target) later
        rw [settle_bind, named]
        cases naming.nested table name with
        | error fault => rfl
        | ok target =>
            simp only [map_ok, bind_ok]
            rw [settle_bind, settle_note, bind_ok, ← map_eq_pure_bind, ← map_eq_pure_bind,
              settle_map, drawn]
            cases EntityDiagram.drawChildren naming target children with
            | error fault => rfl
            | ok fields => simp [relationsOf]

theorem settle_drawNodes (table : Text) (nodes : List Node) (recorder : Recorder) :
    settle (drawNodes naming.lift table nodes) recorder =
      (fun fields => (fields, ⟨recorder.relations ++ relationsOf table fields⟩)) <$>
        EntityDiagram.drawNodes naming table nodes :=
  settle_drawNodes_of_forall naming (fun node _ => settle_drawNode naming table node) recorder

/-- As long as no name is refused, a structure is emitted as it is drawn. -/
theorem settle_emit (name : Text) (forest : Forest) (recorder : Recorder) :
    settle (emit naming.lift name forest) recorder =
      Recorder.emit naming name forest recorder := by
  rw [emit, settle_map, settle_drawNodes, Recorder.emit, ← map_eq_pure_bind, Functor.map_map]
  rfl

theorem settle_drawModel (model : EntityModel) (recorder : Recorder) :
    settle (drawModel naming.lift model) recorder =
      (fun drawing => (drawing, ⟨recorder.relations ++ drawing.relations⟩)) <$>
        Drawing.ofModel naming model := by
  have named : settle (naming.lift.entity model.name) recorder =
      (fun name => (name, recorder)) <$> naming.entity model.name :=
    settle_lift _ recorder
  rw [drawModel, Drawing.ofModel, settle_bind, named]
  cases naming.entity model.name with
  | error fault => rfl
  | ok name =>
      simp only [map_ok, bind_ok]
      rw [← map_eq_pure_bind, ← map_eq_pure_bind, settle_map, settle_drawNodes, Functor.map_map,
        Functor.map_map]
      rfl

theorem settle_mapM_drawModel (models : List EntityModel) (recorder : Recorder) :
    settle (models.mapM (drawModel naming.lift)) recorder =
      Recorder.drawAll naming models recorder := by
  induction models generalizing recorder with
  | nil => rfl
  | cons model models ih =>
      rw [List.mapM_cons, settle_bind, settle_drawModel, Recorder.drawAll]
      cases Drawing.ofModel naming model with
      | error fault => rfl
      | ok drawing =>
          simp only [map_ok, bind_ok]
          rw [← map_eq_pure_bind, settle_map, ih, ← map_eq_pure_bind]
          rfl

/-- As long as no name is refused, models are rendered as they are drawn. -/
theorem settle_render (models : List EntityModel) (recorder : Recorder) :
    settle (render naming.lift models) recorder = Recorder.render naming models recorder := by
  have anew : settle (set Recorder.start) recorder = .ok ((), Recorder.start) := rfl
  rw [render, settle_bind, anew, bind_ok, settle_bind, settle_mapM_drawModel, Recorder.render]
  rfl

end

/-! ### Runs of calls -/

/-- What a recorder can be asked for. -/
inductive Call where
  | emit (name : Text) (forest : Forest)
  | render

inductive Answer where
  | fragments (texts : List Text)
  | diagram (text : Text)

section

variable (naming : Naming (Except Fault)) (models : List EntityModel)

def Call.recording : Call → Recording Answer
  | .emit name forest => .fragments <$> Recording.emit naming.lift name forest
  | .render => .diagram <$> Recording.render naming.lift models

/-- What a call answers and records for a new recorder. -/
def Call.fresh (call : Call) : Except Fault Answer × Recorder :=
  runFrom (call.recording naming models) .start

/-- The record behind a call: emitting adds to it, and rendering starts it anew. -/
def Call.record (call : Call) (earlier : Recorder) : Recorder :=
  match call with
  | .emit _ _ => ⟨earlier.relations ++ (call.fresh naming models).2.relations⟩
  | .render => (call.fresh naming models).2

/-- What is drawn for a call, with the relations between the tables, if no name is refused. -/
def Call.drawn : Call → Except Fault (Answer × Recorder)
  | .emit name forest => Prod.map .fragments id <$> Recorder.emit naming name forest .start
  | .render => Prod.map .diagram id <$> Recorder.render naming models .start

/-- Calls one after another, whether they answer or fail: their answers, and the record that is
left at the end. -/
def runCalls : List Call → Recorder → List (Except Fault Answer) × Recorder
  | [], recorder => ([], recorder)
  | call :: calls, recorder =>
      let (answer, later) := runFrom (call.recording naming models) recorder
      let (answers, last) := runCalls calls later
      (answer :: answers, last)

theorem Call.runFrom_recording (call : Call) (recorder : Recorder) :
    runFrom (call.recording naming models) recorder =
      ((call.fresh naming models).1, call.record naming models recorder) := by
  cases call with
  | emit name forest => exact ((adds_emit naming name forest).map _).runFrom_eq recorder
  | render =>
      have anew : runFrom (Call.render.recording naming models) recorder =
          Call.render.fresh naming models := by
        rw [fresh, recording, runFrom_map, runFrom_map, runFrom_render]
      exact anew

theorem Call.settle_recording (call : Call) :
    settle (call.recording naming models) .start = call.drawn naming models := by
  cases call with
  | emit name forest => rw [recording, settle_map, settle_emit, drawn]
  | render => rw [recording, settle_map, settle_render, drawn]

theorem runCalls_eq (calls : List Call) (recorder : Recorder) :
    runCalls naming models calls recorder =
      (calls.map fun call => (call.fresh naming models).1,
        calls.foldl (fun earlier call => call.record naming models earlier) recorder) := by
  induction calls generalizing recorder with
  | nil => rfl
  | cons call calls ih =>
      rw [runCalls, call.runFrom_recording]
      simp only [ih, List.map_cons, List.foldl_cons]

/-- Whatever a recorder was asked for before, a call answers what it answers for a new recorder; it
records behind the earlier relations, or in their place if it renders, what it records there. If
no name is refused, that is what is drawn and how it is related. -/
theorem calls_independent (recorder : Recorder) :
    (∀ calls, (runCalls naming models calls recorder).1 =
      calls.map fun call => (call.fresh naming models).1) ∧
    (∀ before call, (runCalls naming models (before ++ [call]) recorder).2 =
      match call with
      | .emit _ _ =>
          ⟨(runCalls naming models before recorder).2.relations ++
            (call.fresh naming models).2.relations⟩
      | .render => (call.fresh naming models).2) ∧
    ∀ call : Call, (fun answer => (answer, (call.fresh naming models).2)) <$>
      (call.fresh naming models).1 = call.drawn naming models := by
  refine ⟨fun calls => by rw [runCalls_eq], fun before call => ?_, fun call => ?_⟩
  · rw [runCalls_eq, runCalls_eq, List.foldl_append]
    rfl
  · exact call.settle_recording naming models

end

/-- A relation that is recorded before a name is refused stays recorded. -/
example : (runFrom (emit hashedNaming.lift "Post"
    [⟨"author", .text "ObjectID", ⟨false, false, .text "User"⟩, none⟩,
      ⟨[.surrogate 0], .text "Array", Options.none, none⟩]) .start).2 =
    ⟨[⟨"Post", "author", .text "User", .oneToOne⟩]⟩ :=
  rfl

end Recording

end EntityDiagram
