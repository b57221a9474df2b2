import EntityDiagram.Proofs.Catalog.Failures

/-!
# The snapshot of a catalog

The file of a catalog may change and vanish between the calls.  A call reads it only to load, which
it does when it is told to or when nothing was loaded before.  So at every moment of a run the
catalog has the models of the document that was loaded last, and all its answers are about them.
The main statement is `catalog_serves_snapshot`.
-/

namespace EntityDiagram

/-- What a catalog is asked to do.  Only scalars can be the names of models. -/
inductive Call where
  | load
  | entityNames
  | paths (name : Scalar)
  | methods (name : Scalar)
  | collect (names : List Scalar)

inductive Answer where
  | loaded
  | names (names : List Scalar)
  | paths (paths : Paths)
  | methods (methods : MethodNames)
  | models (models : List EntityModel)

def Catalog.call (catalog : Catalog) (found : Found) : Call → Except Failure Answer × Catalog
  | .load => Prod.map (Except.map fun _ => .loaded) id (catalog.load found)
  | .entityNames => Prod.map (Except.map .names) id (catalog.entityNames found)
  | .paths name => Prod.map (Except.map .paths) id (catalog.paths found (.scalar name))
  | .methods name => Prod.map (Except.map .methods) id (catalog.methods found (.scalar name))
  | .collect names =>
      Prod.map (Except.map .models) id (catalog.collect found (names.map .scalar))

namespace Call

/-- The answer from the models of a snapshot. -/
def answerFrom (models : Mapping) : Call → Except Failure Answer
  | .load => .ok .loaded
  | .entityNames => .ok (.names (models.map Prod.fst))
  | .paths name => (pathsOf models name).map .paths
  | .methods name => (methodsOf models name).map .methods
  | .collect names => (collectAll models (names.map .scalar)).map .models

def reads (catalog : Catalog) : Call → Bool
  | .load => true
  | .collect [] => false
  | _ => catalog.models.isNone

/-- What a call says about a failure to load.  A word of the file that is looked up in vain counts
as a missing model. -/
def reports (failure : Failure) : Call → Failure
  | .load | .entityNames | .collect [] => failure
  | .paths name | .methods name | .collect (name :: _) =>
      if failure.isAbsence then missingModel (.scalar name) else failure

def Fails (models : Mapping) (failure : Failure) : Call → Prop
  | .load | .entityNames => False
  | .paths name => ModelFailure models (.scalar name) failure
  | .methods name => models.get? name = none ∧ failure = missingModel (.scalar name)
  | .collect names =>
      ∃ before name after, names = before ++ name :: after ∧
        (∀ other ∈ before, ∀ earlier, ¬ ModelFailure models (.scalar other) earlier) ∧
        ModelFailure models (.scalar name) failure

end Call

/-- The document that is found at a path, if it is accepted. -/
def acceptedDocument (path : PathName) (found : Found) : Except Failure Mapping := do
  let document ← readDocument path found
  validate (.map document)
  return document

theorem acceptedDocument_eq_ok_iff {path : PathName} {found : Found} {document : Mapping} :
    acceptedDocument path found = .ok document ↔
      readDocument path found = .ok document ∧ validate (.map document) = .ok () := by
  simp only [acceptedDocument, bind_eq_ok_iff, pure, Except.pure, Except.ok.injEq]
  constructor
  · rintro ⟨document, read, ⟨⟩, accepted, rfl⟩
    exact ⟨read, accepted⟩
  · rintro ⟨read, accepted⟩
    exact ⟨document, read, (), accepted, rfl⟩

theorem readModels_eq (path : PathName) (found : Found) :
    readModels path found = (acceptedDocument path found).map modelsOf := by
  unfold readModels acceptedDocument validModels
  cases readDocument path found with
  | error failure => rfl
  | ok document =>
      simp only [bind_ok]
      cases validate (.map document) <;> rfl

/-! ### Documents that hold themselves -/

theorem validate_error {document : Mapping} {failure : Failure}
    (failed : validate (.map document) = .error failure) :
    (∃ error, failure = .conversion error) ∨
      canReport (.map document) (checkDocument (.map document)) = false ∧
        failure = .fault .tooManyDigits := by
  unfold validate at failed
  cases reportable : canReport (.map document) (checkDocument (.map document)) with
  | false =>
      simp only [reportable, Bool.not_false, if_true] at failed
      cases failed
      exact .inr ⟨rfl, rfl⟩
  | true =>
      simp only [reportable, Bool.not_true, Bool.false_eq_true, if_false] at failed
      split at failed <;> cases failed
      exact .inl ⟨_, rfl⟩

theorem readDocument_eq_cyclic_iff {path : PathName} {found : Found} :
    readDocument path found = .error .cyclic ↔ found.HoldsItself := by
  cases found with
  | nothing | refused fault => simp [readDocument, Found.HoldsItself]
  | file bytes =>
      simp only [readDocument, Found.HoldsItself, parseDocument]
      split <;> simp_all

theorem acceptedDocument_eq_cyclic_iff {path : PathName} {found : Found} :
    acceptedDocument path found = .error .cyclic ↔ found.HoldsItself := by
  rw [← readDocument_eq_cyclic_iff, acceptedDocument, bind_eq_error_iff]
  refine or_iff_left ?_
  rintro ⟨document, -, failed⟩
  rcases bind_eq_error_iff.mp failed with refused | ⟨_, -, impossible⟩
  · rcases validate_error refused with ⟨error, conversion⟩ | ⟨-, fault⟩
    · cases conversion
    · cases fault
  · cases impossible

example : (Found.file ("x: &x [*x]".toList.flatMap String.utf8EncodeChar)).HoldsItself := by
  decide +kernel

/-! ### One call -/

section

variable {catalog : Catalog} {found : Found} {call : Call}

theorem Call.not_reads_of_loaded {models : Mapping} (loaded : catalog.models = some models)
    (notLoad : call ≠ .load) : call.reads catalog = false := by
  cases call with
  | load => exact (notLoad rfl).elim
  | entityNames | paths name | methods name => simp [reads, loaded]
  | collect names => cases names <;> simp [reads, loaded]

/-- Every call but an explicit load and an empty collection needs the models. -/
theorem Catalog.call_of_asks (notLoad : call ≠ .load) (notEmpty : call ≠ .collect []) :
    catalog.call found call =
      match catalog.ensure found with
      | (.ok models, next) => (call.answerFrom models, next)
      | (.error failure, next) => (.error (call.reports failure), next) := by
  cases call with
  | load => exact (notLoad rfl).elim
  | entityNames =>
      rw [Catalog.call, entityNames, ask]
      rcases catalog.ensure found with ⟨_ | _, _⟩ <;> rfl
  | paths name =>
      rw [Catalog.call, paths, askAbout]
      rcases catalog.ensure found with ⟨_ | _, _⟩ <;> rfl
  | methods name =>
      rw [Catalog.call, methods, askAbout]
      rcases catalog.ensure found with ⟨_ | _, _⟩ <;> rfl
  | collect names =>
      cases names with
      | nil => exact (notEmpty rfl).elim
      | cons name names =>
          rw [Catalog.call, List.map_cons, Catalog.collect, askAbout]
          rcases catalog.ensure found with ⟨_ | _, _⟩ <;> rfl

theorem Call.reads_of_asks (notLoad : call ≠ .load) (notEmpty : call ≠ .collect []) :
    call.reads catalog = catalog.models.isNone := by
  cases call with
  | load => exact (notLoad rfl).elim
  | entityNames | paths name | methods name => rfl
  | collect names =>
      cases names with
      | nil => exact (notEmpty rfl).elim
      | cons name names => rfl

/-- A call that does not read the file answers from the snapshot. -/
theorem Catalog.call_of_not_reads (notReads : call.reads catalog = false) :
    catalog.call found call = (call.answerFrom (catalog.models.getD []), catalog) := by
  have notLoad : call ≠ .load := by
    rintro rfl
    cases notReads
  by_cases notEmpty : call = .collect []
  · subst notEmpty
    rfl
  · rw [Call.reads_of_asks notLoad notEmpty] at notReads
    rw [call_of_asks notLoad notEmpty, ensure]
    cases loaded : catalog.models with
    | none => simp [loaded] at notReads
    | some models => rfl

/-- With a snapshot, the file does not matter to any call but an explicit load. -/
theorem Catalog.call_of_loaded {models : Mapping} (loaded : catalog.models = some models)
    (notLoad : call ≠ .load) : catalog.call found call = (call.answerFrom models, catalog) := by
  rw [call_of_not_reads (Call.not_reads_of_loaded loaded notLoad), loaded]
  rfl

/-- A call that reads the file answers from what it loads. -/
theorem Catalog.call_of_reads (reads : call.reads catalog = true) :
    catalog.call found call =
      match acceptedDocument catalog.path found with
      | .ok document =>
          (call.answerFrom (modelsOf document), { catalog with models := some (modelsOf document) })
      | .error failure => (.error (call.reports failure), catalog) := by
  have loads : catalog.load found =
      match acceptedDocument catalog.path found with
      | .ok document =>
          (.ok (modelsOf document), { catalog with models := some (modelsOf document) })
      | .error failure => (.error failure, catalog) := by
    rw [load, readModels_eq]
    cases acceptedDocument catalog.path found <;> rfl
  have notEmpty : call ≠ .collect [] := by
    rintro rfl
    cases reads
  by_cases notLoad : call = .load
  · subst notLoad
    rw [Catalog.call, loads]
    cases acceptedDocument catalog.path found <;> rfl
  · rw [Call.reads_of_asks notLoad notEmpty] at reads
    rw [call_of_asks notLoad notEmpty, ensure, Option.isNone_iff_eq_none.mp reads]
    simp only [loads]
    cases acceptedDocument catalog.path found <;> rfl

end

/-! ### Answers from an accepted document -/

section

variable {document : Mapping} (accepted : validate (.map document) = .ok ())

include accepted

theorem Call.answerFrom_eq_error_iff {call : Call} {failure : Failure} :
    call.answerFrom (modelsOf document) = .error failure ↔
      call.Fails (modelsOf document) failure := by
  have map_error {α : Type} {step : Except Failure α} (wrap : α → Answer) :
      step.map wrap = .error failure ↔ step = .error failure := by
    cases step <;> simp [Except.map]
  cases call with
  | load | entityNames => simp [answerFrom, Fails]
  | paths name => exact (map_error _).trans (pathsOf_eq_error_iff accepted)
  | methods name => exact (map_error _).trans (methodsOf_eq_error_iff accepted)
  | collect names =>
      refine (map_error _).trans ((collectAll_fails_iff accepted).trans ?_)
      constructor
      · rintro ⟨before, name, after, same, earlier, failed⟩
        obtain ⟨earlierNames, rest, rfl, rfl, behind⟩ := List.map_eq_append_iff.mp same
        obtain ⟨name, laterNames, rfl, rfl, -⟩ := List.map_eq_cons_iff.mp behind
        refine ⟨earlierNames, name, laterNames, rfl, ?_, failed⟩
        simpa using earlier
      · rintro ⟨before, name, after, rfl, earlier, failed⟩
        refine ⟨before.map .scalar, .scalar name, after.map .scalar, by simp, ?_, failed⟩
        simpa using earlier

end

/-! ### Runs -/

/-- A catalog and what is found at its path. -/
structure Service where
  found : Found
  catalog : Catalog

/-- Something changes what is at the path, or the catalog is called. -/
inductive Event where
  | change (found : Found)
  | call (call : Call)

namespace Service

def start (path : PathName) (found : Found) : Service := ⟨found, .ofPath path⟩

def step (service : Service) : Event → Service
  | .change found => { service with found }
  | .call call => { service with catalog := (service.catalog.call service.found call).2 }

def run (service : Service) (events : List Event) : Service := events.foldl step service

/-- The document that is loaded in an event, explicitly or on the way to an answer. -/
def loaded? (service : Service) : Event → Option Mapping
  | .change _ => none
  | .call call =>
      if call.reads service.catalog then
        (acceptedDocument service.catalog.path service.found).toOption
      else none

/-- The documents that are loaded in a run, in order. -/
def documents (service : Service) : List Event → List Mapping
  | [] => []
  | event :: events => (service.loaded? event).toList ++ (service.step event).documents events

theorem loaded?_call_eq_some_iff {service : Service} {call : Call} {document : Mapping} :
    service.loaded? (.call call) = some document ↔
      call.reads service.catalog = true ∧
        acceptedDocument service.catalog.path service.found = .ok document := by
  rw [loaded?]
  cases call.reads service.catalog with
  | false => simp
  | true =>
      cases acceptedDocument service.catalog.path service.found <;> simp [Except.toOption]

theorem step_catalog (service : Service) (event : Event) :
    (service.step event).catalog =
      match service.loaded? event with
      | some document => { service.catalog with models := some (modelsOf document) }
      | none => service.catalog := by
  cases event with
  | change found => rfl
  | call call =>
      rw [step, loaded?]
      cases reads : call.reads service.catalog with
      | false => simp [Catalog.call_of_not_reads reads]
      | true =>
          rw [Catalog.call_of_reads reads]
          cases acceptedDocument service.catalog.path service.found <;> rfl

theorem step_path (service : Service) (event : Event) :
    (service.step event).catalog.path = service.catalog.path := by
  rw [step_catalog]
  cases service.loaded? event <;> rfl

theorem run_path (service : Service) (events : List Event) :
    (service.run events).catalog.path = service.catalog.path := by
  induction events generalizing service with
  | nil => rfl
  | cons event events ih => exact (ih (service.step event)).trans (service.step_path event)

/-- What is at the path was there at the start, or was put there in the run. -/
theorem run_found (service : Service) (events : List Event) :
    (service.run events).found = service.found ∨
      .change (service.run events).found ∈ events := by
  induction events generalizing service with
  | nil => exact .inl rfl
  | cons event events ih =>
      rcases ih (service.step event) with same | changed
      · cases event with
        | call call => exact .inl same
        | change found =>
            exact .inr (List.mem_cons.mpr (.inl (congrArg Event.change same)))
      · exact .inr (List.mem_cons_of_mem _ changed)

/-- The models of a catalog are those of the last document, if there was one. -/
theorem run_models (service : Service) (events : List Event) :
    (service.run events).catalog.models =
      ((service.documents events).getLast?.map modelsOf).or service.catalog.models := by
  induction events generalizing service with
  | nil => rfl
  | cons event events ih =>
      -- What the rest of the run loads comes last, and hides what the first event loads.
      have models := ih (service.step event)
      rw [step_catalog] at models
      rw [run, List.foldl_cons]
      refine models.trans ?_
      rw [documents, List.getLast?_append]
      cases service.loaded? event with
      | none => simp
      | some document =>
          cases ((service.step event).documents events).getLast? <;> simp

/-- A document of a run was found and accepted in a call that read the file. -/
theorem mem_documents {service : Service} {events : List Event} {document : Mapping}
    (member : document ∈ service.documents events) :
    ∃ before call after, events = before ++ .call call :: after ∧
      call.reads (service.run before).catalog = true ∧
      acceptedDocument service.catalog.path (service.run before).found = .ok document := by
  induction events generalizing service with
  | nil => cases member
  | cons event events ih =>
      rw [documents, List.mem_append] at member
      rcases member with here | later
      · have loaded : service.loaded? event = some document := Option.mem_toList.mp here
        cases event with
        | change found => cases loaded
        | call call => exact ⟨[], call, events, rfl, loaded?_call_eq_some_iff.mp loaded⟩
      · obtain ⟨before, call, after, rfl, reads, found⟩ := ih later
        rw [step_path] at found
        exact ⟨event :: before, call, after, rfl, reads, found⟩

end Service

/-- A catalog serves one snapshot at a time.  Its models are those of the document that was loaded
last.  A call that has to load and cannot leaves the catalog as it is; otherwise it answers from
what it has loaded.  A loaded catalog answers from its document and stays as it is, whatever is at
its path, and it is known how such an answer fails.  The path never holds a document that holds
itself, so every failure to load is one of the program. -/
theorem catalog_serves_snapshot (path : PathName) (found : Found) (events : List Event)
    (finite : ¬ found.HoldsItself) (staysFinite : ∀ later, .change later ∈ events →
      ¬ later.HoldsItself) :
    let start := Service.start path found
    let service := start.run events
    service.catalog.models = (start.documents events).getLast?.map modelsOf ∧
    (∀ document ∈ start.documents events, ∃ before call after,
      events = before ++ .call call :: after ∧ call.reads (start.run before).catalog = true ∧
        readDocument path (start.run before).found = .ok document ∧
        validate (.map document) = .ok ()) ∧
    (∀ call : Call, call.reads service.catalog = true →
      (∀ failure, acceptedDocument path service.found = .error failure → failure ≠ .cyclic ∧
        service.catalog.call service.found call =
          (.error (call.reports failure), service.catalog)) ∧
      ∀ document, acceptedDocument path service.found = .ok document →
        service.catalog.call service.found call =
          (call.answerFrom (modelsOf document), ⟨path, some (modelsOf document)⟩)) ∧
    ∀ document, (start.documents events).getLast? = some document → ∀ call ≠ Call.load,
      (∀ found, service.catalog.call found call =
        (call.answerFrom (modelsOf document), service.catalog)) ∧
      ∀ failure, call.answerFrom (modelsOf document) = .error failure ↔
        call.Fails (modelsOf document) failure := by
  intro start service
  have samePath : service.catalog.path = path := start.run_path events
  have models : service.catalog.models = (start.documents events).getLast?.map modelsOf := by
    have models := start.run_models events
    rwa [show start.catalog.models = none from rfl, Option.or_none] at models
  have serviceFinite : ¬ service.found.HoldsItself := by
    rcases start.run_found events with same | changed
    · rwa [show service.found = found from same]
    · exact staysFinite _ changed
  have sources (document : Mapping) (member : document ∈ start.documents events) :
      ∃ before call after, events = before ++ .call call :: after ∧
        call.reads (start.run before).catalog = true ∧
        readDocument path (start.run before).found = .ok document ∧
        validate (.map document) = .ok () := by
    obtain ⟨before, call, after, same, reads, loaded⟩ := Service.mem_documents member
    exact ⟨before, call, after, same, reads, acceptedDocument_eq_ok_iff.mp loaded⟩
  refine ⟨models, sources, fun call reads => ⟨fun failure failed => ?_, fun document loaded => ?_⟩,
    fun document last call notLoad => ?_⟩
  · refine ⟨?_, by rw [Catalog.call_of_reads reads, samePath, failed]⟩
    rintro rfl
    exact serviceFinite (acceptedDocument_eq_cyclic_iff.mp failed)
  · rw [Catalog.call_of_reads reads, samePath, loaded]
  · obtain ⟨_, _, _, _, _, _, accepted⟩ := sources document (List.mem_of_getLast? last)
    rw [last, Option.map_some] at models
    exact ⟨fun found => Catalog.call_of_loaded models notLoad,
      fun failure => Call.answerFrom_eq_error_iff accepted⟩

def bareBytes : List UInt8 := "models: \x7bA: \x7d".toList.flatMap String.utf8EncodeChar

def bareFile : Found := .file bareBytes

def bareDocument : Mapping := [(.text "models", .map [(.text "A", .null)])]

def holdsBare : Except Failure Mapping → Bool
  | .ok [(.text key, .map [(.text name, .null)])] => key == "models" && name == "A"
  | _ => false

theorem eq_of_holdsBare {accepted : Except Failure Mapping} (bare : holdsBare accepted = true) :
    accepted = .ok bareDocument := by
  unfold holdsBare at bare
  split at bare
  · obtain ⟨key, name⟩ := Bool.and_eq_true_iff.mp bare
    rw [eq_of_beq key, eq_of_beq name]
    rfl
  · cases bare

theorem bareFile_accepted :
    acceptedDocument (PathName.ofText "models.yaml") bareFile = .ok bareDocument :=
  eq_of_holdsBare (by decide +kernel)

theorem bareFile_finite : ¬ bareFile.HoldsItself := by
  rw [← acceptedDocument_eq_cyclic_iff, bareFile_accepted]
  nofun

/-- The file is read on the way to an answer, and a later failure to load does no harm. -/
def bareEvents : List Event :=
  [.change bareFile, .call (.paths (.text "A")), .change .nothing, .call .load]

theorem bareEvents_documents :
    (Service.start (PathName.ofText "models.yaml") .nothing).documents bareEvents =
      [bareDocument] := by
  have change (service : Service) (found : Found) : service.loaded? (.change found) = none := rfl
  have changed (service : Service) (found : Found) :
      service.step (.change found) = ⟨found, service.catalog⟩ := rfl
  have loaded : Service.loaded? ⟨bareFile, .ofPath (PathName.ofText "models.yaml")⟩
      (.call (.paths (.text "A"))) = some bareDocument :=
    Service.loaded?_call_eq_some_iff.mpr ⟨rfl, bareFile_accepted⟩
  have unloaded (catalog : Catalog) : Service.loaded? ⟨.nothing, catalog⟩ (.call .load) = none :=
    rfl
  simp only [bareEvents, Service.documents, Service.start, change, changed, loaded, unloaded,
    Option.toList_none, Option.toList_some, List.nil_append, List.append_nil]

theorem bareFile_served :
    let service := (Service.start (PathName.ofText "models.yaml") .nothing).run bareEvents
    service.catalog.models = some (modelsOf bareDocument) ∧
      (∀ found, service.catalog.call found .entityNames =
        (.ok (.names [.text "A"]), service.catalog)) ∧
      ∀ found, service.catalog.call found (.paths (.text "Ghost")) =
        (.error (.conversion (.unknownModel (.text "Ghost"))), service.catalog) := by
  intro service
  have staysFinite : ∀ later, .change later ∈ bareEvents → ¬ later.HoldsItself := by
    intro later member
    have either : later = bareFile ∨ later = .nothing := by
      simpa only [bareEvents, List.mem_cons, Event.change.injEq, reduceCtorEq, false_or,
        List.not_mem_nil, or_false] using member
    rcases either with rfl | rfl
    · exact bareFile_finite
    · exact id
  obtain ⟨models, -, -, serves⟩ := catalog_serves_snapshot (PathName.ofText "models.yaml") .nothing
    bareEvents id staysFinite
  rw [bareEvents_documents] at models serves
  have names : Call.answerFrom (modelsOf bareDocument) .entityNames =
      .ok (.names [.text "A"]) := rfl
  have unknown : Call.answerFrom (modelsOf bareDocument) (.paths (.text "Ghost")) =
      .error (.conversion (.unknownModel (.text "Ghost"))) := rfl
  have answers := serves bareDocument rfl
  rw [← names, ← unknown]
  exact ⟨models, (answers .entityNames (by simp)).1, (answers (.paths (.text "Ghost")) (by simp)).1⟩

/-- A loaded catalog can fail in another way than by saying that a model is missing: to a name that
is not there and cannot be said, and to a name that is there. -/
theorem unwritable_numbers_not_served :
    let service := (Service.start (PathName.ofText "models.yaml") .nothing).run bareEvents
    let loaded : Catalog :=
      ⟨PathName.ofText "models.yaml", some (modelsOf unwritableFieldDocument)⟩
    (service.catalog.models = some (modelsOf bareDocument) ∧
      (modelsOf bareDocument).get? unwritableKey = none ∧
      (service.catalog.call .nothing (.paths unwritableKey)).1 = .error (.fault .tooManyDigits)) ∧
    validate (.map unwritableFieldDocument) = .ok () ∧
      (modelsOf unwritableFieldDocument).get? (.text "A") ≠ none ∧
      (loaded.call .nothing (.paths (.text "A"))).1 = .error (.fault .tooManyDigits) := by
  intro service loaded
  have models : service.catalog.models = some (modelsOf bareDocument) := by
    have models := Service.run_models (Service.start (PathName.ofText "models.yaml") .nothing)
      bareEvents
    rwa [bareEvents_documents] at models
  have absent : (modelsOf bareDocument).get? unwritableKey = none := rfl
  have unknown : pathsOf (modelsOf bareDocument) unwritableKey =
      .error (.fault .tooManyDigits) := by
    rw [pathsOf_eq, modelEntries_eq_error_iff.mpr ⟨absent, rfl⟩, missingModel]
    simp [Value.isWritable, unwritableKey_not_writable, bind, Except.bind]
  have accepted : validate (.map unwritableFieldDocument) = .ok () := rfl
  have present : (modelsOf unwritableFieldDocument).get? (.text "A") ≠ none := by
    intro absent
    cases absent
  have unreadable : ¬ ReadableModel (modelsOf unwritableFieldDocument) (.text "A") := by
    intro readable
    have writable := readable _ rfl _ rfl (unwritableKey, .text "String") (by simp)
    rw [unwritableKey_not_writable] at writable
    cases writable
  have unread := (pathsOf_eq_error_iff accepted).mpr (.unreadable present unreadable)
  have unknownAnswer : service.catalog.call .nothing (.paths unwritableKey) = _ :=
    Catalog.call_of_loaded models (by simp)
  have unreadAnswer : loaded.call .nothing (.paths (.text "A")) = _ :=
    Catalog.call_of_loaded rfl (by simp)
  refine ⟨⟨models, absent, ?_⟩, accepted, present, ?_⟩
  · rw [unknownAnswer, Call.answerFrom, unknown]
    rfl
  · rw [unreadAnswer, Call.answerFrom, unread]
    rfl

end EntityDiagram
