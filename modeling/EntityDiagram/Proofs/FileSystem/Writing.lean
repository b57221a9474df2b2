import EntityDiagram.Proofs.FileSystem.Directories

/-!
# Writing files

Files are written one after another in free places.  Directories and free places stay as they are,
so each file can be written whatever was written before.  In the end every place where only one
content was written holds it, and every place where nothing was written holds what it held.
-/

namespace EntityDiagram

namespace FileSystem

variable {files : FileSystem} {writes : List (Location × List UInt8)} {bytes : List UInt8}

/-- The files after contents were written one after another. -/
def store (files : FileSystem) (writes : List (Location × List UInt8)) : FileSystem :=
  writes.foldl (fun files write => files.put write.1 (.file write.2)) files

theorem store_append (files : FileSystem) (writes more : List (Location × List UInt8)) :
    files.store (writes ++ more) = (files.store writes).store more :=
  List.foldl_append

/-- Contents are written in free places only. -/
def Spares (files : FileSystem) (writes : List (Location × List UInt8)) : Prop :=
  ∀ write ∈ writes, files.isFree write.1 = true

theorem isFree_put_file {place : Location} (free : files.isFree place = true)
    (content : List UInt8) (location : Location) :
    (files.put place (.file content)).isFree location = files.isFree location := by
  by_cases same : location = place
  · subst same
    unfold isFree at free ⊢
    rw [entry?_put]
    by_cases isBase : location.names = []
    · rw [entry?_of_names_nil _ isBase] at free
      cases free
    · simpa [isBase] using free.symm
  · unfold isFree
    rw [entry?_put]
    by_cases isBase : location.names = []
    · simp [isBase, entry?_of_names_nil]
    · simp [isBase, same]

theorem Spares.put {place : Location} (spares : files.Spares writes)
    (free : files.isFree place = true) (content : List UInt8) :
    (files.put place (.file content)).Spares writes := by
  intro write member
  rw [isFree_put_file free]
  exact spares write member

theorem isFree_store (spares : files.Spares writes) (location : Location) :
    (files.store writes).isFree location = files.isFree location := by
  induction writes generalizing files with
  | nil => rfl
  | cons write writes ih =>
      obtain ⟨here, others⟩ := List.forall_mem_cons.mp spares
      have sparesRest : files.Spares writes := others
      calc
        (files.store (write :: writes)).isFree location =
            (files.put write.1 (.file write.2)).isFree location := ih (sparesRest.put here write.2)
        _ = files.isFree location := isFree_put_file here write.2 location

theorem within_store (spares : files.Spares writes) : files.Within (files.store writes) := by
  induction writes generalizing files with
  | nil => exact .refl files
  | cons write writes ih =>
      obtain ⟨here, others⟩ := List.forall_mem_cons.mp spares
      have sparesRest : files.Spares writes := others
      have put : files.Within (files.put write.1 (.file write.2)) := by
        refine within_put fun isDirectory => ?_
        rw [isFree.isDirectory_eq_false here] at isDirectory
        cases isDirectory
      exact put.trans (ih (sparesRest.put here write.2))

theorem content?_put_file {place : Location} (free : files.isFree place = true)
    (content : List UInt8) (location : Location) :
    (files.put place (.file content)).content? location =
      if location = place then some content else files.content? location := by
  unfold content?
  rw [entry?_put]
  by_cases same : location = place
  · subst same
    have notBase : location.names ≠ [] := by
      intro isBase
      rw [isFree, entry?_of_names_nil _ isBase] at free
      cases free
    simp [notBase]
  · by_cases isBase : location.names = []
    · simp [isBase, same, entry?_of_names_nil]
    · simp [isBase, same]

theorem content?_store_of_not_mem (spares : files.Spares writes) {location : Location}
    (elsewhere : location ∉ writes.map Prod.fst) :
    (files.store writes).content? location = files.content? location := by
  induction writes generalizing files with
  | nil => rfl
  | cons write writes ih =>
      obtain ⟨here, others⟩ := List.forall_mem_cons.mp spares
      simp only [List.map_cons, List.mem_cons, not_or] at elsewhere
      have sparesRest : files.Spares writes := others
      have step : (files.put write.1 (.file write.2)).content? location =
          files.content? location := by
        rw [content?_put_file here, if_neg elsewhere.1]
      exact (ih (sparesRest.put here write.2) elsewhere.2).trans step

/-- A place holds what was written there, if nothing else was. -/
theorem content?_store_of_mem (spares : files.Spares writes) {write : Location × List UInt8}
    (member : write ∈ writes)
    (only : ∀ other ∈ writes, other.1 = write.1 → other.2 = write.2) :
    (files.store writes).content? write.1 = some write.2 := by
  induction writes generalizing files with
  | nil => cases member
  | cons first writes ih =>
      obtain ⟨here, others⟩ := List.forall_mem_cons.mp spares
      have sparesRest : (files.put first.1 (.file first.2)).Spares writes :=
        Spares.put others here first.2
      by_cases again : write.1 ∈ writes.map Prod.fst
      · obtain ⟨other, inRest, same⟩ := List.mem_map.mp again
        have equal : other = write :=
          Prod.ext same (only other (List.mem_cons_of_mem _ inRest) same)
        exact ih sparesRest (equal ▸ inRest) fun other inRest =>
          only other (List.mem_cons_of_mem _ inRest)
      · have isFirst : write = first := by
          rcases List.mem_cons.mp member with isFirst | inRest
          · exact isFirst
          · exact absurd (List.mem_map_of_mem inRest) again
        subst isFirst
        calc
          (files.store (write :: writes)).content? write.1 =
              (files.put write.1 (.file write.2)).content? write.1 :=
            content?_store_of_not_mem sparesRest again
          _ = some write.2 := by rw [content?_put_file here, if_pos rfl]

/-! ### Files that can be written -/

/-- A path leads to a free place in a directory. -/
def CanWrite (files : FileSystem) (bytes : List UInt8) : Prop :=
  ∃ directory name, files.resolveParent bytes = .ok (directory, .name name) ∧
    files.isFree (directory.child name) = true

theorem canWrite_iff {content : List UInt8} :
    (∃ later, files.writeFile bytes content = .ok later) ↔ files.CanWrite bytes := by
  constructor
  · rintro ⟨later, written⟩
    obtain ⟨directory, name, resolved, free, -⟩ := writeFile_eq_ok_iff.mp written
    exact ⟨directory, name, resolved, free⟩
  · rintro ⟨directory, name, resolved, free⟩
    exact ⟨_, writeFile_eq_ok_iff.mpr ⟨directory, name, resolved, free, rfl⟩⟩

/-- Where a path leads, by its last part and the parts in front of it. -/
theorem ofBytes_of_resolveParent {directory : Location} {last : PathPart}
    (resolved : files.resolveParent bytes = .ok (directory, last)) :
    Location.ofBytes bytes = directory.step last := by
  obtain ⟨front, other, parts⟩ := startOf_parts bytes
  obtain ⟨-, followed, -, -, rfl⟩ := (resolveParent_eq_ok_iff parts).mp resolved
  rw [Location.ofBytes, parts, List.foldl_append, ← follow_eq_ok followed]
  rfl

theorem CanWrite.isFree (can : files.CanWrite bytes) :
    files.isFree (.ofBytes bytes) = true := by
  obtain ⟨directory, name, resolved, free⟩ := can
  rw [ofBytes_of_resolveParent resolved]
  exact free

theorem CanWrite.writeFile (can : files.CanWrite bytes) (content : List UInt8) :
    files.writeFile bytes content = .ok (files.store [(.ofBytes bytes, content)]) := by
  obtain ⟨directory, name, resolved, free⟩ := can
  rw [writeFile_eq_ok_iff, ofBytes_of_resolveParent resolved]
  exact ⟨directory, name, resolved, free, rfl⟩

theorem CanWrite.store (can : files.CanWrite bytes) (spares : files.Spares writes) :
    (files.store writes).CanWrite bytes := by
  obtain ⟨directory, name, resolved, free⟩ := can
  have within := within_store spares
  obtain ⟨front, last, parts⟩ := startOf_parts bytes
  obtain ⟨short, followed, isDirectory, fits, same⟩ := (resolveParent_eq_ok_iff parts).mp resolved
  refine ⟨directory, name, (resolveParent_eq_ok_iff parts).mpr
    ⟨short, within.follow followed, within.directory directory isDirectory, fits, same⟩, ?_⟩
  rw [isFree_store spares]
  exact free

/-- A file that was written is read again. -/
theorem CanWrite.look (can : files.CanWrite bytes) {content : List UInt8}
    (holds : files.content? (.ofBytes bytes) = some content) :
    files.look bytes = .ok (.file content) := by
  obtain ⟨directory, name, resolved, free⟩ := can
  obtain ⟨front, last, parts⟩ := startOf_parts bytes
  obtain ⟨short, followed, isDirectory, fits, rfl⟩ := (resolveParent_eq_ok_iff parts).mp resolved
  have place := ofBytes_of_resolveParent resolved
  have found : files.entry? (directory.child name) = some (.file content) := by
    rw [place] at holds
    unfold content? at holds
    split at holds
    · next here =>
        cases holds
        exact here
    · cases holds
  have nonempty : bytes ≠ [] := by
    rintro rfl
    have last : (startOf []).2.getLast? = some .here := rfl
    simp [parts] at last
  have nameFits : ¬ longestName < name.length := by simpa [tooLong] using fits
  have arrives : files.resolve bytes = .ok (directory.child name) := by
    refine resolve_eq_ok_iff.mpr ⟨nonempty, short, ?_⟩
    rw [parts, follow_append_eq_ok_iff]
    refine ⟨directory, followed, follow_cons_eq_ok_iff.mpr
      ⟨isDirectory, directory.child name, ?_, rfl⟩⟩
    simp [FileSystem.advance, found, nameFits]
  unfold FileSystem.look
  rw [arrives, bind_ok, found]
  rfl

end FileSystem

end EntityDiagram
