import EntityDiagram.Generation
import EntityDiagram.Proofs.FileSystem.Places

/-!
# What the variants write

Each variant writes an image and, when that is asked for, its source next to it.  The stamp has no
slash, so all four are entries of the output directory, and their names have different bytes.
-/

namespace EntityDiagram

/-- What a variant can write. -/
inductive Output where
  | source
  | image
deriving DecidableEq, Repr

def Output.suffix : Output → String
  | source => ".d2"
  | image => ".svg"

theorem Output.exists_iff {holds : Output → Prop} :
    (∃ output, holds output) ↔ holds .source ∨ holds .image := by
  constructor
  · rintro ⟨_ | _, held⟩
    · exact .inl held
    · exact .inr held
  · rintro (held | held)
    · exact ⟨_, held⟩
    · exact ⟨_, held⟩

namespace Variant

variable {variant : Variant} {directory : PathName} {stamp : Text}

def outputName (variant : Variant) (output : Output) (stamp : Text) : Text :=
  variant.label ++ stamp ++ output.suffix

def outputPath (variant : Variant) (output : Output) (directory : PathName) (stamp : Text) :
    PathName :=
  directory.entry (variant.outputName output stamp)

theorem outputName_plain (plain : CodePoint.char '/' ∉ stamp) (variant : Variant)
    (output : Output) : CodePoint.char '/' ∉ variant.outputName output stamp := by
  have noSlash : CodePoint.char '/' ∉ Text.ofString variant.label ∧
      CodePoint.char '/' ∉ Text.ofString output.suffix := by
    cases variant <;> cases output <;> decide
  simp [outputName, plain, noSlash]

theorem imagePath_eq (plain : CodePoint.char '/' ∉ stamp) :
    variant.imagePath directory stamp = variant.outputPath .image directory stamp := by
  have long : 1 < (variant.outputName .image stamp).length := by
    cases variant <;> simp [outputName, label, Text.ofString, Text.ofChars]
  refine PathName.join_of_plain (outputName_plain plain variant .image) ?_ ?_
  · intro isEmpty
    rw [show variant.outputName .image stamp = [] from isEmpty] at long
    simp at long
  · intro isHere
    rw [show variant.outputName .image stamp = Text.ofString "." from isHere] at long
    simp [Text.ofString, Text.ofChars] at long

theorem sourcePath_eq :
    sourcePath (variant.outputPath .image directory stamp) =
      variant.outputPath .source directory stamp := by
  have nonempty : Text.ofString variant.label ++ stamp ≠ [] := by
    cases variant <;> simp [label, Text.ofString, Text.ofChars]
  have stem : PathName.stem (variant.outputName .image stamp) =
      Text.ofString variant.label ++ stamp :=
    PathName.stem_append nonempty (List.cons_ne_nil _ _) (by decide)
  simp only [sourcePath, PathName.withSuffix, outputPath, PathName.entry, PathName.name,
    List.getLast?_concat, Option.getD_some, List.dropLast_concat, stem]
  rfl

/-- Where a variant saves what it writes. -/
def savedPath (variant : Variant) (directory : PathName) (stamp : Text) : Output → PathName
  | .source => sourcePath (variant.imagePath directory stamp)
  | .image => variant.imagePath directory stamp

theorem savedPath_eq (plain : CodePoint.char '/' ∉ stamp) (output : Output) :
    variant.savedPath directory stamp output = variant.outputPath output directory stamp := by
  cases output with
  | source => rw [savedPath, imagePath_eq plain, sourcePath_eq]
  | image => exact imagePath_eq plain

/-- The four names of a run differ in their first or in their last byte. -/
theorem outputName_injective {other : Variant} {output otherOutput : Output}
    (same : (variant.outputName output stamp).nameBytes =
      (other.outputName otherOutput stamp).nameBytes) :
    variant = other ∧ output = otherOutput := by
  have first (variant : Variant) (output : Output) :
      (variant.outputName output stamp).nameBytes.head? =
        (Text.ofString variant.label).nameBytes.head? := by
    cases variant <;> rfl
  have last (variant : Variant) (output : Output) :
      (variant.outputName output stamp).nameBytes.getLast? =
        (Text.ofString output.suffix).nameBytes.getLast? := by
    rw [outputName, Text.nameBytes_append, List.getLast?_append]
    cases output <;> rfl
  constructor
  · have heads := first variant output
    rw [same, first] at heads
    cases variant <;> cases other <;> first | rfl | exact absurd heads (by decide)
  · have lasts := last variant output
    rw [same, last] at lasts
    cases output <;> cases otherOutput <;> first | rfl | exact absurd lasts (by decide)

/-- The four outputs of a run have places of their own. -/
theorem place_outputPath_injective (plain : CodePoint.char '/' ∉ stamp) {other : Variant}
    {output otherOutput : Output}
    (same : (variant.outputPath output directory stamp).place =
      (other.outputPath otherOutput directory stamp).place) :
    variant = other ∧ output = otherOutput := by
  have long (variant : Variant) (output : Output) :
      2 < (variant.outputName output stamp).nameBytes.length := by
    have label : 2 < (Text.ofString variant.label).nameBytes.length := by
      cases variant <;> decide
    rw [outputName, Text.nameBytes_append, Text.nameBytes_append]
    simp only [List.length_append]
    omega
  have sameBytes : (variant.outputName output stamp).nameBytes =
      (other.outputName otherOutput stamp).nameBytes :=
    PathName.nameBytes_eq_of_place_eq (outputName_plain plain variant output)
      (outputName_plain plain other otherOutput) (long _ _) (long _ _) same
  exact outputName_injective sameBytes

end Variant

theorem not_mem_decimalPadded (width n : Nat) : '/' ∉ (Text.decimalPadded width n).toList := by
  have digits : '/' ∉ Nat.toDigits 10 n := by
    intro member
    have isDigit := Nat.isDigit_of_mem_toDigits (by decide) (by decide) member
    cases isDigit
  simp [Text.decimalPadded, digits]

/-- The stamp of a moment can stand in a name. -/
theorem Moment.stamp_plain (moment : Moment) : CodePoint.char '/' ∉ Text.ofString moment.stamp := by
  have year : '/' ∉ (toString moment.date.year).toList := by
    simpa [Text.decimalPadded] using not_mem_decimalPadded 0 moment.date.year
  simp only [Text.ofString, Text.ofChars, List.mem_map, CodePoint.char.injEq, exists_eq_right,
    stamp, clock, String.toList_append, List.mem_append, year, not_mem_decimalPadded, false_or,
    or_false]
  decide

end EntityDiagram
