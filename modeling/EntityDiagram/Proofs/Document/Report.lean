import EntityDiagram.Proofs.Text.Line
import Mathlib.Data.List.Lex

/-!
# The report of violations

A report has a line for each violation, in the order of the places that they name, and below it the
lines of its context.  Places are compared step by step, and steps as texts, by the numbers of their
code points.  The main statements are `sortViolations_before` and `reportLines_violationReport`:
violations at different places are reported in strict order, and their lines can be read off the
report.
-/

namespace EntityDiagram

/-! ### The order of places -/

def CodePoint.Before (c d : CodePoint) : Prop :=
  c.toNat < d.toNat

/-- The order of texts by the numbers of their code points. -/
def Text.Before : Text → Text → Prop :=
  List.Lex CodePoint.Before

/-- The steps of a place as texts. -/
def Place.segments (place : Place) : List Text :=
  place.map Step.display

/-- The order of places by the texts of their steps. -/
def Place.Before (first second : Place) : Prop :=
  List.Lex Text.Before first.segments second.segments

/-- No character has the number of a surrogate. -/
theorem CodePoint.toNat_char_ne_surrogate (c : Char) (offset : Fin 0x800) :
    (CodePoint.char c).toNat ≠ (CodePoint.surrogate offset).toNat := by
  have valid : c.toNat < 0xD800 ∨ 0xDFFF < c.toNat ∧ c.toNat < 0x110000 := c.valid
  have bound := offset.isLt
  show c.toNat ≠ 0xD800 + offset.val
  omega

theorem CodePoint.eq_of_toNat_eq {c d : CodePoint} (same : c.toNat = d.toNat) : c = d := by
  cases c with
  | char c =>
      cases d with
      | char d => exact congrArg CodePoint.char (Char.toNat_inj.mp same)
      | surrogate offset => exact (toNat_char_ne_surrogate c offset same).elim
  | surrogate offset =>
      cases d with
      | char d => exact (toNat_char_ne_surrogate d offset same.symm).elim
      | surrogate other =>
          exact congrArg CodePoint.surrogate (Fin.ext (Nat.add_left_cancel same))

instance instTrichotomousCodePointBefore : Std.Trichotomous CodePoint.Before where
  trichotomous _ _ notBefore notAfter :=
    CodePoint.eq_of_toNat_eq
      (Nat.le_antisymm (Nat.le_of_not_lt notAfter) (Nat.le_of_not_lt notBefore))

instance instAsymmCodePointBefore : Std.Asymm CodePoint.Before where
  asymm _ _ before := Nat.lt_asymm before

instance instIsOrderConnectedCodePointBefore : IsOrderConnected CodePoint CodePoint.Before where
  conn first middle last before := by
    unfold CodePoint.Before at before ⊢
    omega

instance instTrichotomousTextBefore : Std.Trichotomous Text.Before :=
  inferInstanceAs (Std.Trichotomous (List.Lex CodePoint.Before))

instance instAsymmTextBefore : Std.Asymm Text.Before :=
  inferInstanceAs (Std.Asymm (List.Lex CodePoint.Before))

instance instIsOrderConnectedTextBefore : IsOrderConnected Text Text.Before :=
  inferInstanceAs (IsOrderConnected (List CodePoint) (List.Lex CodePoint.Before))

theorem Text.precedes_iff {first second : Text} :
    first.precedes second = true ↔ ¬ second.Before first := by
  induction first generalizing second with
  | nil =>
      rw [precedes]
      exact iff_of_true rfl fun before => nomatch before
  | cons c first ih =>
      cases second with
      | nil =>
          rw [precedes]
          exact iff_of_false Bool.false_ne_true fun notBefore => notBefore .nil
      | cons d second =>
          have notBefore : ¬ Text.Before (d :: second) (c :: first) ↔
              ¬ d.toNat < c.toNat ∧ (d = c → ¬ Text.Before second first) := by
            rw [Before, List.cons_lex_cons_iff, not_or, not_and]
            rfl
          have sameCode : d = c ↔ d.toNat = c.toNat :=
            ⟨congrArg CodePoint.toNat, CodePoint.eq_of_toNat_eq⟩
          rw [notBefore, sameCode, ← ih, precedes, Bool.or_eq_true, Bool.and_eq_true, beq_iff_eq,
            decide_eq_true_eq]
          grind

theorem textsLE_iff {first second : List Text} :
    textsLE first second = true ↔ ¬ List.Lex Text.Before second first := by
  induction first generalizing second with
  | nil =>
      rw [textsLE]
      exact iff_of_true rfl fun before => nomatch before
  | cons x first ih =>
      cases second with
      | nil =>
          rw [textsLE]
          exact iff_of_false Bool.false_ne_true fun notBefore => notBefore .nil
      | cons y second =>
          rw [textsLE, List.cons_lex_cons_iff, not_or, not_and]
          split
          · next same =>
              rw [ih, same]
              exact ⟨fun later => ⟨irrefl_of Text.Before y, fun _ => later⟩, fun both => both.2 rfl⟩
          · next different =>
              rw [Text.precedes_iff]
              exact ⟨fun later => ⟨later, fun same => (different same.symm).elim⟩, And.left⟩

theorem sortViolations_perm (violations : List Violation) :
    (sortViolations violations).Perm violations :=
  List.mergeSort_perm violations _

/-- Violations are sorted: none comes behind one of a later place. -/
theorem sortViolations_sorted (violations : List Violation) :
    (sortViolations violations).Pairwise fun first second =>
      ¬ second.complaint.place.Before first.complaint.place := by
  have trans : ∀ first middle last : Violation,
      textsLE first.complaint.place.segments middle.complaint.place.segments = true →
        textsLE middle.complaint.place.segments last.complaint.place.segments = true →
          textsLE first.complaint.place.segments last.complaint.place.segments = true := by
    intro first middle last
    simp only [textsLE_iff]
    exact fun one other => IsOrderConnected.neg_trans other one
  have total : ∀ first second : Violation,
      (textsLE first.complaint.place.segments second.complaint.place.segments ||
        textsLE second.complaint.place.segments first.complaint.place.segments) = true := by
    intro first second
    rw [Bool.or_eq_true, textsLE_iff, textsLE_iff, ← not_and_or]
    exact fun both => asymm_of (List.Lex Text.Before) both.1 both.2
  exact (List.pairwise_mergeSort trans total violations).imp fun notAfter => textsLE_iff.mp notAfter

/-- Violations whose places have different texts are sorted strictly. -/
theorem sortViolations_before {violations : List Violation}
    (apart : violations.Pairwise fun first second =>
      first.complaint.place.segments ≠ second.complaint.place.segments) :
    (sortViolations violations).Pairwise fun first second =>
      first.complaint.place.Before second.complaint.place := by
  have sortedApart : (sortViolations violations).Pairwise fun first second =>
      first.complaint.place.segments ≠ second.complaint.place.segments :=
    ((sortViolations_perm violations).pairwise_iff Ne.symm).mpr apart
  refine ((sortViolations_sorted violations).and sortedApart).imp ?_
  rintro first second ⟨notAfter, different⟩
  rcases trichotomous_of (List.Lex Text.Before) first.complaint.place.segments
    second.complaint.place.segments with before | same | after
  · exact before
  · exact (different same).elim
  · exact (notAfter after).elim

/-! ### Lines -/

/-- The line of a complaint that is no context of another. -/
def Complaint.line (complaint : Complaint) : Text :=
  "- " ++ complaint.place.display ++ ": " ++ complaint.cause.message

/-- The lines of a report that stand for a violation each. -/
def reportLines (report : Text) : List Text :=
  (report.splitOn (CodePoint.char '\n')).filter fun line =>
    List.isPrefixOf (Text.ofString "- ") line

/-- A place of which every step is a text without line breaks. -/
def Place.OnLine (place : Place) : Prop :=
  ∀ step ∈ place, CodePoint.char '\n' ∉ step.display

theorem newline_not_mem_ofString {string : String} (isLine : IsLine string) :
    CodePoint.char '\n' ∉ Text.ofString string := by
  rw [Text.ofString, Text.ofChars, List.mem_map]
  rintro ⟨c, member, same⟩
  obtain rfl := CodePoint.char.inj same
  exact isLine member

theorem Place.OnLine.newline_not_mem_display {place : Place} (onLine : place.OnLine) :
    CodePoint.char '\n' ∉ place.display := by
  rw [display, Text.join, List.mem_append, List.mem_flatten]
  rintro (inRoot | ⟨segment, listed, inSegment⟩)
  · exact newline_not_mem_ofString (by decide) inRoot
  · obtain ⟨step, member, rfl⟩ := List.mem_map.mp listed
    rcases List.mem_append.mp inSegment with inSlash | inStep
    · exact newline_not_mem_ofString (by decide) inSlash
    · exact onLine step member inStep

theorem newline_not_mem_line {mark : String} (markLine : IsLine mark) {complaint : Complaint}
    (onLine : complaint.place.OnLine) :
    CodePoint.char '\n' ∉
      (mark ++ complaint.place.display ++ ": " ++ complaint.cause.message : Text) := by
  simp only [List.mem_append, not_or]
  exact ⟨⟨⟨newline_not_mem_ofString markLine, onLine.newline_not_mem_display⟩,
    newline_not_mem_ofString (by decide)⟩, newline_not_mem_ofString complaint.cause.message_isLine⟩

theorem Violation.lines_eq (violation : Violation) :
    violation.lines = violation.complaint.line :: violation.context.map fun complaint =>
      "    * " ++ complaint.place.display ++ ": " ++ complaint.cause.message :=
  rfl

theorem Violation.newline_not_mem_lines {violation : Violation}
    (onLine : ∀ complaint ∈ violation.complaint :: violation.context, complaint.place.OnLine) :
    ∀ line ∈ violation.lines, CodePoint.char '\n' ∉ line := by
  obtain ⟨own, context⟩ := List.forall_mem_cons.mp onLine
  rw [lines_eq]
  refine List.forall_mem_cons.mpr ⟨newline_not_mem_line (by decide) own, ?_⟩
  exact List.forall_mem_map.mpr fun complaint member =>
    newline_not_mem_line (by decide) (context complaint member)

/-- Of the lines of a violation only that of its own complaint stands for it. -/
theorem Violation.filter_lines (violation : Violation) :
    (violation.lines.filter fun line => List.isPrefixOf (Text.ofString "- ") line) =
      [violation.complaint.line] := by
  have context : ∀ line ∈ violation.context.map fun complaint =>
      ("    * " ++ complaint.place.display ++ ": " ++ complaint.cause.message : Text),
      ¬ List.isPrefixOf (Text.ofString "- ") line = true := by
    refine List.forall_mem_map.mpr fun complaint _ => ?_
    exact fun isPrefix => nomatch isPrefix
  rw [lines_eq, List.filter_cons_of_pos rfl, List.filter_eq_nil_iff.mpr context]

/-- The lines of a report that start as complaints are those of the violations, in order. -/
theorem reportLines_violationReport {violations : List Violation} (refused : violations ≠ [])
    (onLine : ∀ violation ∈ violations,
      ∀ complaint ∈ violation.complaint :: violation.context, complaint.place.OnLine) :
    reportLines (violationReport violations) =
      (sortViolations violations).map fun violation => violation.complaint.line := by
  have nonempty : (sortViolations violations).flatMap Violation.lines ≠ [] := by
    intro unwritten
    obtain ⟨violation, member⟩ := List.exists_mem_of_ne_nil violations refused
    have sorted := (sortViolations_perm violations).mem_iff.mpr member
    have empty := List.flatMap_eq_nil_iff.mp unwritten violation sorted
    rw [Violation.lines_eq] at empty
    cases empty
  have joined : violationReport violations = [CodePoint.char '\n'].intercalate
      (Text.ofString "Schema validation failed:" ::
        (sortViolations violations).flatMap Violation.lines) := by
    obtain ⟨line, lines, given⟩ := List.exists_cons_of_ne_nil nonempty
    rw [violationReport, Text.joinWith, given, List.intercalate_cons_cons]
    rfl
  have noBreak : ∀ line ∈ Text.ofString "Schema validation failed:" ::
      (sortViolations violations).flatMap Violation.lines, CodePoint.char '\n' ∉ line := by
    refine List.forall_mem_cons.mpr ⟨newline_not_mem_ofString (by decide), ?_⟩
    refine List.forall_mem_flatMap.mpr fun violation sorted => ?_
    have member := (sortViolations_perm violations).mem_iff.mp sorted
    exact violation.newline_not_mem_lines (onLine violation member)
  rw [reportLines, joined, List.splitOn_intercalate _ noBreak (List.cons_ne_nil _ _),
    List.filter_cons_of_neg (by decide), List.filter_flatMap]
  simp only [Violation.filter_lines]
  exact List.map_eq_flatMap.symm

end EntityDiagram
