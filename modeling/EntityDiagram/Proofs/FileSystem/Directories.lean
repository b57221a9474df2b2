import EntityDiagram.Proofs.FileSystem.Following
import EntityDiagram.World

/-!
# Making directories

A directory that is made is there afterwards, no file changes, and what is done to the files
depends on nothing else in the scene.  Once a directory is there, making it again changes nothing.
-/

namespace EntityDiagram

namespace FileSystem

variable {files later : FileSystem} {bytes : List UInt8}

/-! ### Single operations -/

theorem makeDirectory_eq_ok_iff :
    files.makeDirectory bytes = .ok later ↔
      ∃ directory name, files.resolveParent bytes = .ok (directory, .name name) ∧
        files.entry? (directory.child name) = none ∧
        later = files.put (directory.child name) .directory := by
  unfold makeDirectory
  rw [bind_eq_ok_iff]
  constructor
  · rintro ⟨⟨directory, last⟩, resolved, made⟩
    cases last with
    | here | back => cases made
    | name name =>
        cases present : files.entry? (directory.child name) with
        | some entry => simp [present] at made
        | none =>
            simp only [present] at made
            exact ⟨directory, name, resolved, present, (Except.ok.inj made).symm⟩
  · rintro ⟨directory, name, resolved, absent, rfl⟩
    exact ⟨(directory, .name name), resolved, by simp [absent]; rfl⟩

/-- Whether a file can be written at a location: there is no directory, and no closed file. -/
def isFree (files : FileSystem) (location : Location) : Bool :=
  match files.entry? location with
  | some .directory | some .closed => false
  | _ => true

theorem isFree.isDirectory_eq_false {location : Location} (free : files.isFree location = true) :
    files.isDirectory location = false := by
  rw [Bool.eq_false_iff]
  intro isDirectory
  rw [isFree, isDirectory_iff.mp isDirectory] at free
  cases free

theorem writeFile_eq_ok_iff {content : List UInt8} :
    files.writeFile bytes content = .ok later ↔
      ∃ directory name, files.resolveParent bytes = .ok (directory, .name name) ∧
        files.isFree (directory.child name) = true ∧
        later = files.put (directory.child name) (.file content) := by
  have write (place : Location) :
      (match files.entry? place with
        | some .directory => throw .isDirectory
        | some .closed => throw .notPermitted
        | _ => pure (files.put place (.file content)) : Except PathProblem FileSystem) = .ok later ↔
        files.isFree place = true ∧ later = files.put place (.file content) := by
    unfold isFree
    rcases files.entry? place with _ | (_ | _ | _) <;>
      simp [throw, throwThe, MonadExceptOf.throw, pure, Except.pure, eq_comm]
  unfold writeFile
  rw [bind_eq_ok_iff]
  constructor
  · rintro ⟨⟨directory, last⟩, resolved, written⟩
    cases last with
    | here | back => cases written
    | name name => exact ⟨directory, name, resolved, (write _).mp written⟩
  · rintro ⟨directory, name, resolved, free⟩
    exact ⟨(directory, .name name), resolved, (write _).mpr free⟩

/-- A directory may be made, but nothing is taken away and no file changes. -/
structure Prepares (files later : FileSystem) : Prop where
  within : files.Within later
  contents : ∀ location, later.content? location = files.content? location

theorem Prepares.refl (files : FileSystem) : files.Prepares files :=
  ⟨.refl files, fun _ => rfl⟩

theorem Prepares.trans {latest : FileSystem} (first : files.Prepares later)
    (second : later.Prepares latest) : files.Prepares latest :=
  ⟨first.within.trans second.within,
    fun location => (second.contents location).trans (first.contents location)⟩

theorem content?_put_directory {place : Location} (absent : files.entry? place = none)
    (location : Location) :
    (files.put place .directory).content? location = files.content? location := by
  unfold content?
  rw [entry?_put]
  by_cases isBase : location.names = []
  · simp [isBase, entry?_of_names_nil]
  · by_cases same : location = place
    · subst same
      simp [isBase, absent]
    · simp [isBase, same]

theorem makeDirectory_prepares (made : files.makeDirectory bytes = .ok later) :
    files.Prepares later := by
  obtain ⟨directory, name, -, absent, rfl⟩ := makeDirectory_eq_ok_iff.mp made
  exact ⟨within_put fun _ => rfl, content?_put_directory absent⟩

/-! ### Directories that are there -/

/-- Whether a path leads to a directory. -/
def HasDirectory (files : FileSystem) (bytes : List UInt8) : Prop :=
  ∃ place, files.resolve bytes = .ok place ∧ files.isDirectory place = true

theorem HasDirectory.mono (there : files.HasDirectory bytes) (within : files.Within later) :
    later.HasDirectory bytes := by
  obtain ⟨place, resolved, isDirectory⟩ := there
  obtain ⟨nonempty, short, followed⟩ := resolve_eq_ok_iff.mp resolved
  exact ⟨place, resolve_eq_ok_iff.mpr ⟨nonempty, short, within.follow followed⟩,
    within.directory place isDirectory⟩

/-- The places on the way down to a location have entries. -/
def Rooted (files : FileSystem) (location : Location) : Prop :=
  ∀ names, names <:+ location.names → (files.entry? ⟨location.base, names⟩).isSome = true

theorem Rooted.ofBase {location : Location} (isBase : location.names = []) :
    files.Rooted location := by
  intro names below
  rw [isBase, List.suffix_nil] at below
  rw [entry?_of_names_nil _ below]
  rfl

theorem Rooted.advance {location place : Location} {part : PathPart}
    (rooted : files.Rooted location) (advanced : files.advance location part = .ok place) :
    files.Rooted place := by
  cases part with
  | here =>
      cases advanced
      exact rooted
  | back =>
      cases advanced
      obtain ⟨base, names⟩ := location
      cases names with
      | cons name names =>
          exact fun above below => rooted above (List.IsSuffix.trans below (List.suffix_cons _ _))
      | nil => cases base <;> exact Rooted.ofBase rfl
  | name name =>
      simp only [FileSystem.advance] at advanced
      split at advanced
      · cases advanced
      · split at advanced
        · cases advanced
        · next present =>
            cases advanced
            intro names below
            rcases List.suffix_cons_iff.mp below with rfl | above
            · have found : files.entry? (location.child name) ≠ none := by simpa using present
              exact Option.isSome_iff_ne_none.mpr found
            · exact rooted names above

/-- A path leads to an entry, also when it leads back. -/
theorem entry?_isSome_of_resolve {place : Location} (resolved : files.resolve bytes = .ok place) :
    (files.entry? place).isSome = true := by
  have rooted_of_follow {parts : List PathPart} {location : Location}
      (rooted : files.Rooted location) (followed : files.follow location parts = .ok place) :
      files.Rooted place := by
    induction parts generalizing location with
    | nil =>
        cases followed
        exact rooted
    | cons part parts ih =>
        obtain ⟨-, next, advanced, followed⟩ := follow_cons_eq_ok_iff.mp followed
        exact ih (rooted.advance advanced) followed
  have base : (startOf bytes).1.names = [] := by
    unfold startOf
    dsimp only
    split <;> rfl
  exact rooted_of_follow (.ofBase base) (resolve_eq_ok_iff.mp resolved).2.2 place.names
    (List.suffix_refl _)

theorem look_eq_directory_iff : files.look bytes = .ok .directory ↔ files.HasDirectory bytes := by
  unfold look
  rw [bind_eq_ok_iff]
  refine exists_congr fun place => and_congr_right fun resolved => ?_
  obtain ⟨entry, present⟩ := Option.isSome_iff_exists.mp (entry?_isSome_of_resolve resolved)
  rw [isDirectory_iff, present]
  simp [pure, Except.pure]

/-- The last part of a path to a directory stands behind a directory. -/
theorem HasDirectory.resolveParent (there : files.HasDirectory bytes) :
    ∃ directory last, files.resolveParent bytes = .ok (directory, last) ∧
      ∀ name, last = .name name → (files.entry? (directory.child name)).isSome = true := by
  obtain ⟨place, resolved, -⟩ := there
  obtain ⟨-, short, followed⟩ := resolve_eq_ok_iff.mp resolved
  obtain ⟨front, last, parts⟩ := startOf_parts bytes
  rw [parts] at followed
  obtain ⟨directory, followed, behind⟩ := follow_append_eq_ok_iff.mp followed
  obtain ⟨isDirectory, next, advanced, -⟩ := follow_cons_eq_ok_iff.mp behind
  refine ⟨directory, last, ?_, ?_⟩
  · refine (resolveParent_eq_ok_iff parts).mpr ⟨short, followed, isDirectory, ?_, rfl⟩
    cases last with
    | here | back => rfl
    | name name =>
        simp only [FileSystem.advance] at advanced
        split at advanced
        · cases advanced
        · next fits => simpa [tooLong] using fits
  · rintro name rfl
    simp only [FileSystem.advance] at advanced
    split at advanced
    · cases advanced
    · split at advanced
      · cases advanced
      · next present => simpa [Option.isSome_iff_ne_none] using present

theorem HasDirectory.makeDirectory (there : files.HasDirectory bytes) :
    files.makeDirectory bytes = .error .alreadyExists := by
  obtain ⟨directory, last, resolved, present⟩ := there.resolveParent
  unfold FileSystem.makeDirectory
  rw [resolved, bind_ok]
  cases last with
  | here | back => rfl
  | name name =>
      obtain ⟨entry, found⟩ := Option.isSome_iff_exists.mp (present name rfl)
      simp only [found]
      rfl

theorem makeDirectory_hasDirectory (made : files.makeDirectory bytes = .ok later) :
    later.HasDirectory bytes := by
  have within := (makeDirectory_prepares made).within
  obtain ⟨directory, name, resolved, -, rfl⟩ := makeDirectory_eq_ok_iff.mp made
  obtain ⟨front, last, parts⟩ := startOf_parts bytes
  obtain ⟨short, followed, isDirectory, fits, rfl⟩ := (resolveParent_eq_ok_iff parts).mp resolved
  have nonempty : bytes ≠ [] := by
    rintro rfl
    have last : (startOf []).2.getLast? = some .here := rfl
    simp [parts] at last
  have found :
      FileSystem.entry? (files.put (directory.child name) .directory) (directory.child name) =
        some .directory := by
    simp [entry?_put]
  refine ⟨directory.child name, resolve_eq_ok_iff.mpr ⟨nonempty, short, ?_⟩,
    isDirectory_iff.mpr found⟩
  rw [parts, follow_append_eq_ok_iff]
  refine ⟨directory, within.follow followed, follow_cons_eq_ok_iff.mpr
    ⟨within.directory directory isDirectory, directory.child name, ?_, rfl⟩⟩
  have nameFits : ¬ longestName < name.length := by simpa [tooLong] using fits
  simp [FileSystem.advance, found, nameFits]

end FileSystem

/-! ### Directories with those above them -/

namespace Scene

variable {α β : Type} {scene after : Scene} {path : PathName}

theorem onPath_eq_ok_iff {operation : List UInt8 → Except PathProblem α} {answer : α} :
    onPath path operation = .ok answer ↔
      ∃ bytes, systemBytes path.text = .ok bytes ∧ operation bytes = .ok answer := by
  simp only [onPath, bind_eq_ok_iff, mapError_eq_ok_iff]

/-- What the system refuses, it refuses at the path that it was given. -/
theorem onPath_refused {operation : List UInt8 → Except PathProblem α} {problem : PathProblem}
    {refused : PathName} (failed : onPath path operation = .error (.refused problem refused)) :
    refused = path := by
  rw [onPath, bind_eq_error_iff] at failed
  rcases failed with unencoded | ⟨bytes, -, failed⟩
  · rw [systemBytes, bind_eq_error_iff] at unencoded
    rcases unencoded with notEncoded | ⟨bytes, -, nullCharacter⟩
    · obtain ⟨_, -, impossible⟩ := mapError_eq_error_iff.mp notEncoded
      cases impossible
    · split at nullCharacter <;> cases nullCharacter
  · obtain ⟨_, -, same⟩ := mapError_eq_error_iff.mp failed
    cases same
    rfl

/-- An action only looks at the files, and leaves them as they are but for new directories. -/
structure Preparing (action : StateM Scene α) : Prop where
  prepares : ∀ scene : Scene, scene.files.Prepares (action.run scene).2.files
  onFiles : ∀ scene other : Scene, other.files = scene.files →
    action.run other = ((action.run scene).1, { other with files := (action.run scene).2.files })

theorem Preparing.pure (answer : α) : Preparing (Pure.pure answer) where
  prepares scene := .refl scene.files
  onFiles scene other same := by
    rw [show (Pure.pure answer : StateM Scene α).run scene = (answer, scene) from rfl, ← same]
    rfl

theorem Preparing.bind {action : StateM Scene α} {next : α → StateM Scene β}
    (first : Preparing action) (second : ∀ answer, Preparing (next answer)) :
    Preparing (action >>= next) where
  prepares scene := (first.prepares scene).trans ((second _).prepares _)
  onFiles scene other same := by
    have runs (scene : Scene) : (action >>= next).run scene =
        (next (action.run scene).1).run (action.run scene).2 := rfl
    rw [runs, runs, first.onFiles scene other same]
    exact (second _).onFiles _ _ rfl

theorem look_preparing : Preparing (world.look path) where
  prepares scene := .refl scene.files
  onFiles scene other same := by
    cases other
    cases same
    rfl

theorem run_makeDirectory (scene : Scene) :
    (world.makeDirectory path).run scene =
      match onPath path scene.files.makeDirectory with
      | .ok later => (.ok (), { scene with files := later })
      | .error fault => (.error fault, scene) := by
  have unfolded : (world.makeDirectory path).run scene =
      StateT.run (match onPath path scene.files.makeDirectory with
        | .ok files => do
            set { scene with files := files }
            return .ok ()
        | .error fault => return .error fault : StateM Scene (Except PathFault Unit)) scene := rfl
  rw [unfolded]
  cases onPath path scene.files.makeDirectory <;> rfl

theorem makeDirectory_preparing : Preparing (world.makeDirectory path) where
  prepares scene := by
    rw [run_makeDirectory]
    cases made : onPath path scene.files.makeDirectory with
    | error fault => exact .refl scene.files
    | ok later =>
        obtain ⟨bytes, -, made⟩ := onPath_eq_ok_iff.mp made
        exact FileSystem.makeDirectory_prepares made
  onFiles scene other same := by
    rw [run_makeDirectory, run_makeDirectory, same]
    cases onPath path scene.files.makeDirectory with
    | error fault => rw [← same]
    | ok later => rfl

theorem ensureDirectory_preparing : Preparing (world.ensureDirectory path) := by
  refine makeDirectory_preparing.bind fun outcome => ?_
  have accepted (refusal : PathFault) (path : PathName) :
      Preparing (world.acceptDirectory path refusal) := by
    refine look_preparing.bind fun found => ?_
    rcases found with fault | (_ | _) <;> exact .pure _
  split
  · split
    · exact .pure _
    · exact accepted _ _
  · exact .pure _

theorem ensureDirectories_preparing (depth : Nat) :
    Preparing (world.ensureDirectories depth path) := by
  induction depth generalizing path with
  | zero => exact ensureDirectory_preparing
  | succ depth ih =>
      refine ensureDirectory_preparing.bind fun outcome => ?_
      split
      · refine ih.bind fun outcome => ?_
        split
        · exact ensureDirectory_preparing
        · exact .pure _
      · exact .pure _

/-- A path leads to a directory. -/
def HasDirectory (files : FileSystem) (path : PathName) : Prop :=
  ∃ bytes, systemBytes path.text = .ok bytes ∧ files.HasDirectory bytes

theorem look_eq_directory_iff :
    scene.look path = .ok .directory ↔ HasDirectory scene.files path := by
  unfold look HasDirectory
  simp only [← FileSystem.look_eq_directory_iff, ← onPath_eq_ok_iff]
  cases onPath path scene.files.look with
  | error fault => simp [bind, Except.bind]
  | ok entry => cases entry <;> simp [bind_ok, pure, Except.pure]

theorem run_acceptDirectory (path : PathName) (refusal : PathFault) (scene : Scene) :
    (world.acceptDirectory path refusal).run scene =
      (match scene.look path with
        | .ok .directory => .ok ()
        | .ok .file => .error refusal
        | .error fault => .error (if fault.isAbsence then refusal else fault), scene) := by
  have unfolded : (world.acceptDirectory path refusal).run scene =
      StateT.run (match scene.look path with
        | .ok .directory => return .ok ()
        | .ok .file => return .error refusal
        | .error fault => return .error (if fault.isAbsence then refusal else fault) :
          StateM Scene (Except PathFault Unit)) scene := rfl
  rw [unfolded]
  rcases scene.look path with fault | (_ | _) <;> rfl

theorem hasDirectory_of_acceptDirectory {refusal : PathFault}
    (accepted : (world.acceptDirectory path refusal).run scene = (.ok (), after)) :
    HasDirectory after.files path := by
  rw [run_acceptDirectory] at accepted
  rw [← look_eq_directory_iff]
  split at accepted
  · next found =>
      cases accepted
      exact found
  · cases accepted
  · cases accepted

theorem run_ensureDirectory (path : PathName) (scene : Scene) :
    (world.ensureDirectory path).run scene =
      StateT.run (match ((world.makeDirectory path).run scene).1 with
        | .error (.refused problem path) =>
            if problem == .notFound then return .error (.refused problem path)
            else world.acceptDirectory path (.refused problem path)
        | outcome => return outcome) ((world.makeDirectory path).run scene).2 :=
  rfl

theorem run_ensureDirectories_succ (depth : Nat) (path : PathName) (scene : Scene) :
    (world.ensureDirectories (depth + 1) path).run scene =
      StateT.run (match ((world.ensureDirectory path).run scene).1 with
        | .error (.refused .notFound _) => do
            match ← world.ensureDirectories depth path.parent with
            | .ok () => world.ensureDirectory path
            | refusal => return refusal
        | outcome => return outcome) ((world.ensureDirectory path).run scene).2 :=
  rfl

/-- A directory that could be made is there. -/
theorem hasDirectory_of_ensureDirectory
    (made : (world.ensureDirectory path).run scene = (.ok (), after)) :
    HasDirectory after.files path := by
  rw [run_ensureDirectory, run_makeDirectory] at made
  cases created : onPath path scene.files.makeDirectory with
  | ok later =>
      obtain ⟨bytes, encoded, created⟩ := onPath_eq_ok_iff.mp created
      rw [onPath_eq_ok_iff.mpr ⟨bytes, encoded, created⟩] at made
      cases made
      exact ⟨bytes, encoded, FileSystem.makeDirectory_hasDirectory created⟩
  | error fault =>
      rw [created] at made
      cases fault with
      | unwritable _ | nullCharacter => cases made
      | refused problem refused =>
          obtain rfl := onPath_refused created
          dsimp only at made
          split at made
          · cases made
          · exact hasDirectory_of_acceptDirectory made

theorem ensureDirectory_of_hasDirectory (there : HasDirectory scene.files path) :
    (world.ensureDirectory path).run scene = (.ok (), scene) := by
  obtain ⟨bytes, encoded, inFiles⟩ := there
  have refused : onPath path scene.files.makeDirectory =
      .error (.refused .alreadyExists path) := by
    rw [onPath, encoded, bind_ok, inFiles.makeDirectory]
    rfl
  rw [run_ensureDirectory, run_makeDirectory, refused]
  show (world.acceptDirectory path (.refused .alreadyExists path)).run scene = _
  rw [run_acceptDirectory, look_eq_directory_iff.mpr ⟨bytes, encoded, inFiles⟩]

/-- A directory that is there is not made again. -/
theorem ensureDirectories_of_hasDirectory (depth : Nat) (there : HasDirectory scene.files path) :
    (world.ensureDirectories depth path).run scene = (.ok (), scene) := by
  cases depth with
  | zero => exact ensureDirectory_of_hasDirectory there
  | succ depth =>
      rw [run_ensureDirectories_succ, ensureDirectory_of_hasDirectory there]
      rfl

/-- After a directory and those above it were made, it is there. -/
theorem hasDirectory_of_ensureDirectories {depth : Nat}
    (made : (world.ensureDirectories depth path).run scene = (.ok (), after)) :
    HasDirectory after.files path := by
  cases depth with
  | zero => exact hasDirectory_of_ensureDirectory made
  | succ depth =>
      rw [run_ensureDirectories_succ] at made
      generalize first : (world.ensureDirectory path).run scene = result at made
      obtain ⟨outcome, between⟩ := result
      match outcome with
      | .ok () =>
          cases made
          exact hasDirectory_of_ensureDirectory first
      | .error (.refused .notFound _) =>
          have second : StateT.run
              (match ((world.ensureDirectories depth path.parent).run between).1 with
                | .ok () => world.ensureDirectory path
                | refusal => return refusal)
              ((world.ensureDirectories depth path.parent).run between).2 = (.ok (), after) :=
            made
          split at second
          · exact hasDirectory_of_ensureDirectory second
          · next failed =>
              exact (failed (Prod.mk.inj second).1).elim
      | .error (.refused .notPermitted _) | .error (.refused .alreadyExists _)
      | .error (.refused .notDirectory _) | .error (.refused .isDirectory _)
      | .error (.refused .nameTooLong _) | .error (.refused (.other _ _) _)
      | .error (.unwritable _) | .error .nullCharacter => cases made

end Scene

end EntityDiagram
