import EntityDiagram.FileSystem
import EntityDiagram.Proofs.Outcome

/-!
# Where paths lead

What is there decides whether a path can be followed, but not where it leads: there are no links.
So a path that can be followed leads to the same place as long as no entry is taken away and no
directory becomes a file.
-/

namespace EntityDiagram

namespace Location

/-- Where a part of a path leads. -/
def step (location : Location) : PathPart → Location
  | .here => location
  | .back => location.parent
  | .name bytes => location.child bytes

/-- Where the bytes of a path lead. -/
def ofBytes (bytes : List UInt8) : Location :=
  (startOf bytes).2.foldl step (startOf bytes).1

end Location

namespace FileSystem

variable {files later : FileSystem} {location place : Location}

theorem entry?_of_names_nil (base : Location) (isBase : base.names = []) :
    files.entry? base = some .directory := by
  unfold entry?
  simp [isBase]

/-- A new entry is found in its place, and every other place keeps its own. -/
theorem entry?_put {entry : Entry} (location : Location) :
    FileSystem.entry? (files.put place entry) location =
      if location.names = [] then some .directory
      else if location = place then some entry
      else files.entry? location := by
  unfold entry?
  by_cases isBase : location.names = []
  · simp [isBase]
  · by_cases same : location = place
    · simp [put, same]
    · have absent : (location == place) = false := by simpa using same
      have kept (entries : List (Location × Entry)) :
          (entries.filter fun other => other.1 != place).lookup location =
            entries.lookup location := by
        induction entries with
        | nil => rfl
        | cons other entries ih =>
            obtain ⟨key, value⟩ := other
            by_cases isPlace : key = place
            · simp [isPlace, ih, List.lookup_cons, absent]
            · simp [isPlace, ih, List.lookup_cons]
      simp [put, isBase, same, List.lookup_cons, absent, kept]

theorem isDirectory_iff :
    files.isDirectory location = true ↔ files.entry? location = some .directory := by
  simp [isDirectory]

/-- The content of the file at a location, if a file is there. -/
def content? (files : FileSystem) (location : Location) : Option (List UInt8) :=
  match files.entry? location with
  | some (.file content) => some content
  | _ => none

/-- Every entry stays an entry, and every directory a directory. -/
structure Within (files later : FileSystem) : Prop where
  entry : ∀ location, (files.entry? location).isSome = true → (later.entry? location).isSome = true
  directory : ∀ location, files.isDirectory location = true → later.isDirectory location = true

theorem Within.refl (files : FileSystem) : files.Within files :=
  ⟨fun _ => id, fun _ => id⟩

theorem Within.trans {latest : FileSystem} (first : files.Within later)
    (second : later.Within latest) : files.Within latest :=
  ⟨fun location => second.entry location ∘ first.entry location,
    fun location => second.directory location ∘ first.directory location⟩

/-- A new entry takes nothing away, unless a file replaces a directory. -/
theorem within_put {entry : Entry}
    (keeps : files.isDirectory place = true → entry = .directory) :
    files.Within (files.put place entry) := by
  constructor
  · intro location present
    rw [entry?_put]
    split
    · rfl
    · split
      · rfl
      · exact present
  · intro location isDirectory
    rw [isDirectory_iff] at isDirectory ⊢
    rw [entry?_put]
    split
    · rfl
    · split
      · next same => rw [keeps (isDirectory_iff.mpr (same ▸ isDirectory))]
      · exact isDirectory

/-! ### Following -/

theorem advance_eq_ok {part : PathPart} (advanced : files.advance location part = .ok place) :
    place = location.step part := by
  cases part with
  | here | back => exact (Except.ok.inj advanced).symm
  | name bytes =>
      simp only [advance] at advanced
      split at advanced
      · cases advanced
      · split at advanced
        · cases advanced
        · exact (Except.ok.inj advanced).symm

theorem follow_cons_eq_ok_iff {part : PathPart} {rest : List PathPart} :
    files.follow location (part :: rest) = .ok place ↔
      files.isDirectory location = true ∧
        ∃ next, files.advance location part = .ok next ∧ files.follow next rest = .ok place := by
  rw [follow]
  split
  · next isDirectory => simp [isDirectory, bind_eq_ok_iff]
  · next notDirectory => simp [notDirectory]

theorem follow_append_eq_ok_iff {parts more : List PathPart} :
    files.follow location (parts ++ more) = .ok place ↔
      ∃ middle, files.follow location parts = .ok middle ∧
        files.follow middle more = .ok place := by
  induction parts generalizing location with
  | nil => simp [follow]
  | cons part parts ih =>
      simp only [List.cons_append, follow_cons_eq_ok_iff, ih]
      constructor
      · rintro ⟨isDirectory, next, advanced, middle, followed, rest⟩
        exact ⟨middle, ⟨isDirectory, next, advanced, followed⟩, rest⟩
      · rintro ⟨middle, ⟨isDirectory, next, advanced, followed⟩, rest⟩
        exact ⟨isDirectory, next, advanced, middle, followed, rest⟩

/-- Only the parts of a path say where it leads. -/
theorem follow_eq_ok {parts : List PathPart} (followed : files.follow location parts = .ok place) :
    place = parts.foldl Location.step location := by
  induction parts generalizing location with
  | nil => exact (Except.ok.inj followed).symm
  | cons part parts ih =>
      obtain ⟨-, next, advanced, followed⟩ := follow_cons_eq_ok_iff.mp followed
      rw [ih followed, advance_eq_ok advanced, List.foldl_cons]

section

variable (within : files.Within later)

include within

theorem Within.advance {part : PathPart} (advanced : files.advance location part = .ok place) :
    later.advance location part = .ok place := by
  cases part with
  | here | back => exact advanced
  | name bytes =>
      simp only [FileSystem.advance] at advanced ⊢
      split at advanced
      · cases advanced
      · next short =>
          split at advanced
          · cases advanced
          · next present =>
              have stays := within.entry (location.child bytes)
                (by simpa [Option.isSome_iff_ne_none] using present)
              rw [if_neg short, if_neg (by simpa [Option.isSome_iff_ne_none] using stays)]
              exact advanced

/-- A path that can be followed can still be followed when nothing is taken away. -/
theorem Within.follow {parts : List PathPart} (followed : files.follow location parts = .ok place) :
    later.follow location parts = .ok place := by
  induction parts generalizing location with
  | nil => exact followed
  | cons part parts ih =>
      obtain ⟨isDirectory, next, advanced, followed⟩ := follow_cons_eq_ok_iff.mp followed
      exact follow_cons_eq_ok_iff.mpr
        ⟨within.directory location isDirectory, next, within.advance advanced, ih followed⟩

end

/-! ### Paths to entries -/

theorem resolve_eq_ok_iff {bytes : List UInt8} :
    files.resolve bytes = .ok place ↔
      bytes ≠ [] ∧ bytes.length ≤ longestPath ∧
        files.follow (startOf bytes).1 (startOf bytes).2 = .ok place := by
  unfold resolve
  by_cases isEmpty : bytes = []
  · simp [isEmpty]
  · by_cases long : longestPath < bytes.length
    · simp [isEmpty, long, Nat.not_le.mpr long]
    · simp [isEmpty, long, Nat.le_of_not_lt long]

/-- The last part of a path, and the parts in front of it. -/
theorem startOf_parts (bytes : List UInt8) :
    ∃ front last, (startOf bytes).2 = front ++ [last] := by
  have nonempty : (startOf bytes).2 ≠ [] := by
    suffices split : splitBytes [] bytes ≠ [] by simpa [startOf] using split
    cases bytes with
    | nil => simp [splitBytes]
    | cons byte bytes =>
        generalize current : ([] : List UInt8) = front
        clear current
        induction bytes generalizing byte front with
        | nil => unfold splitBytes; split <;> simp [splitBytes]
        | cons next bytes ih =>
            unfold splitBytes
            split
            · simp
            · exact ih next (byte :: front)
  exact ⟨_, _, (List.dropLast_concat_getLast nonempty).symm⟩

/-- Whether a part is a name that no entry can have. -/
def tooLong : PathPart → Bool
  | .name bytes => longestName < bytes.length
  | _ => false

theorem resolveParent_eq {bytes : List UInt8} {front : List PathPart} {last : PathPart}
    (parts : (startOf bytes).2 = front ++ [last]) :
    files.resolveParent bytes =
      if longestPath < bytes.length then .error .nameTooLong
      else
        files.follow (startOf bytes).1 front >>= fun directory =>
          if files.isDirectory directory = true then
            if tooLong last = true then .error .nameTooLong else .ok (directory, last)
          else .error .notDirectory := by
  unfold resolveParent
  simp only [parts, List.dropLast_concat, List.getLast?_concat, Option.getD_some]
  split
  · rfl
  · show files.follow (startOf bytes).1 front >>= _ = _
    congr
    funext directory
    cases isDirectory : files.isDirectory directory with
    | false => rfl
    | true =>
        cases last with
        | here | back => rfl
        | name bytes =>
            by_cases long : longestName < bytes.length <;> simp [tooLong, long] <;> rfl

theorem resolveParent_eq_ok_iff {bytes : List UInt8} {front : List PathPart} {last part : PathPart}
    (parts : (startOf bytes).2 = front ++ [last]) :
    files.resolveParent bytes = .ok (place, part) ↔
      bytes.length ≤ longestPath ∧ files.follow (startOf bytes).1 front = .ok place ∧
        files.isDirectory place = true ∧ tooLong last = false ∧ part = last := by
  rw [resolveParent_eq parts]
  by_cases long : longestPath < bytes.length
  · simp [long, Nat.not_le.mpr long]
  · simp only [long, if_false, Nat.le_of_not_lt long, true_and, bind_eq_ok_iff]
    constructor
    · rintro ⟨directory, followed, answered⟩
      split at answered
      · next isDirectory =>
          split at answered
          · cases answered
          · next short =>
              cases answered
              exact ⟨followed, isDirectory, by simpa using short, rfl⟩
      · cases answered
    · rintro ⟨followed, isDirectory, short, rfl⟩
      exact ⟨place, followed, by simp [isDirectory, short]⟩

end FileSystem

end EntityDiagram
