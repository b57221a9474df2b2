import EntityDiagram.Yaml.Token.Scalar

/-!
# Scanning ends

Every turn of a loop over the text passes a character, except the last one.  So the fuel that the
loops are given is enough.
-/

namespace EntityDiagram.Yaml

open Steps

variable {α β : Type} {cursor : Cursor}

/-- The character at the cursor; the end of the text has a mark of its own. -/
def Cursor.next (cursor : Cursor) : Char := cursor.rest.headD endMark

theorem Cursor.left_pos (more : cursor.next ≠ endMark) : 0 < cursor.left := by
  refine List.length_pos_iff.mpr fun empty => more ?_
  simp [next, empty]

theorem Cursor.left_behind (count : Nat) : (cursor.behind count).left = cursor.left - count :=
  List.length_drop

namespace Scan

/-- A scan ends wherever it starts, and leaves no more than there was. -/
def Stays (scan : Scan α) : Prop :=
  ∀ cursor, scan.Ends cursor fun _ later => later.left ≤ cursor.left

/-- A scan ends and leaves less than there was. -/
def Advances (scan : Scan α) (cursor : Cursor) : Prop :=
  scan.Ends cursor fun _ later => later.left < cursor.left

theorem Stays.bind {scan : Scan α} {next : α → Scan β} (stays : Stays scan)
    (goesOn : ∀ answer, Stays (next answer)) : Stays (scan >>= next) := fun cursor =>
  Ends.bind (stays cursor) fun answer middle le =>
    (goesOn answer middle).mono fun _ _ => (Nat.le_trans · le)

theorem Stays.pure (answer : α) : Stays (pure answer) := fun _ => .pure (Nat.le_refl _)

theorem Stays.throw (fault : LoadFault) : Stays (throw fault : Scan α) := fun _ => .throw fault

theorem Stays.discard {scan : Scan α} (stays : Stays scan) : Stays (discard scan) := fun cursor =>
  (stays cursor).discard.mono fun _ _ ⟨_, le⟩ => le

theorem Advances.bind_stays {scan : Scan α} {next : α → Scan β} (advances : Advances scan cursor)
    (goesOn : ∀ answer, Stays (next answer)) : Advances (scan >>= next) cursor :=
  Ends.bind advances fun answer middle lt =>
    (goesOn answer middle).mono fun _ _ => (Nat.lt_of_le_of_lt · lt)

theorem Advances.map {scan : Scan α} {change : α → β} (advances : Advances scan cursor) :
    Advances (change <$> scan) cursor :=
  Ends.mono (Ends.map advances) fun _ _ ⟨_, lt, _⟩ => lt

theorem Advances.stays {scan : Scan α} (advances : Advances scan cursor) :
    scan.Ends cursor fun _ later => later.left ≤ cursor.left :=
  advances.mono fun _ _ => Nat.le_of_lt

/-! ### Characters -/

theorem ends_peekAt (count : Nat) :
    (peekAt count).Ends cursor fun c later =>
      c = (cursor.rest.drop count).headD endMark ∧ later = cursor := by
  refine ends_get.bind ?_
  rintro _ _ ⟨rfl, rfl⟩
  split
  next same => exact .pure ⟨by rw [same]; rfl, rfl⟩
  next same _ => exact .pure ⟨by rw [same]; rfl, rfl⟩
  next => exact .throw _

theorem ends_peek : peek.Ends cursor fun c later => c = cursor.next ∧ later = cursor :=
  ends_peekAt 0

theorem peekAt_stays (count : Nat) : Stays (peekAt count) := fun _ =>
  (ends_peekAt count).mono fun _ _ ⟨_, same⟩ => Nat.le_of_eq (congrArg Cursor.left same)

theorem peek_stays : Stays peek := peekAt_stays 0

theorem get_stays : Stays get := fun _ =>
  ends_get.mono fun _ _ ⟨_, same⟩ => Nat.le_of_eq (congrArg Cursor.left same)

theorem ends_pass (count : Nat) :
    (pass count).Ends cursor fun _ later => later = cursor.behind count := by
  refine (ends_peekAt count).discard.bind ?_
  rintro _ _ ⟨_, -, rfl⟩
  exact ends_modify _

theorem pass_stays (count : Nat) : Stays (pass count) := fun _ =>
  (ends_pass count).mono fun _ _ same => by
    rw [same, Cursor.left_behind]
    exact Nat.sub_le _ _

theorem pass_advances {count : Nat} (positive : 0 < count) (more : cursor.next ≠ endMark) :
    Advances (pass count) cursor :=
  (ends_pass count).mono fun _ _ same => by
    rw [same, Cursor.left_behind]
    exact Nat.sub_lt (Cursor.left_pos more) positive

theorem ends_run (among : Char → Bool) :
    (run among).Ends cursor fun passed later =>
      passed = cursor.rest.takeWhile among ∧ later = cursor.behind passed.length := by
  refine ends_get.bind ?_
  rintro _ _ ⟨rfl, rfl⟩
  exact (ends_pass _).bind fun _ _ same => .pure ⟨rfl, same⟩

theorem run_stays (among : Char → Bool) : Stays (run among) := fun _ =>
  (ends_run among).mono fun _ _ ⟨_, same⟩ => by
    rw [same, Cursor.left_behind]
    exact Nat.sub_le _ _

/-- Characters of a class are passed, unless none stands at the cursor. -/
theorem ends_run_or {among : Char → Bool} (noEnd : among endMark = false) :
    (run among).Ends cursor fun _ later =>
      later.left ≤ cursor.left ∧
        (later.left < cursor.left ∨ among cursor.next = false ∧ later.next = cursor.next) := by
  refine (ends_run among).mono ?_
  rintro _ later ⟨rfl, rfl⟩
  refine ⟨by rw [Cursor.left_behind]; exact Nat.sub_le _ _, ?_⟩
  cases rest : cursor.rest with
  | nil => exact .inr (by simp [Cursor.next, Cursor.behind, rest, noEnd])
  | cons c more =>
      cases isAmong : among c with
      | true =>
          have left : 0 < cursor.left := by simp [Cursor.left, rest]
          have passed : 0 < ((c :: more).takeWhile among).length := by simp [isAmong]
          rw [Cursor.left_behind]
          exact .inl (Nat.sub_lt left passed)
      | false => exact .inr (by simp [Cursor.next, Cursor.behind, rest, isAmong])

theorem skipSpaces_stays : Stays skipSpaces := (run_stays _).discard

theorem skipComment_stays : Stays skipComment := by
  refine peek_stays.bind fun c => ?_
  split
  · exact (run_stays _).discard
  · exact .pure ()

theorem problem_stays (cause : ProblemCause) : Stays (problem cause : Scan α) :=
  get_stays.bind fun _ => .throw _

theorem require_stays (condition : Bool) (cause : ProblemCause) :
    Stays (require condition cause) := by
  unfold require
  split
  · exact .pure ()
  · exact problem_stays cause

theorem ends_problem (cause : ProblemCause) {good : α → Cursor → Prop} :
    (problem cause).Ends cursor good :=
  ends_get.bind fun _ _ _ => .throw _

/-- What a scan requires of the next character holds if it goes on. -/
theorem ends_requireNext (among : Char → Bool) (cause : ProblemCause) :
    (requireNext among cause).Ends cursor fun _ later =>
      among cursor.next = true ∧ later = cursor := by
  refine ends_peek.bind ?_
  rintro _ _ ⟨rfl, rfl⟩
  unfold require
  split
  next isAmong => exact .pure ⟨isAmong, rfl⟩
  next => exact ends_problem cause

theorem requireNext_stays (among : Char → Bool) (cause : ProblemCause) :
    Stays (requireNext among cause) :=
  peek_stays.bind fun _ => require_stays _ cause

theorem ends_turns :
    turns.Ends cursor fun count later => count = cursor.left + 1 ∧ later = cursor := by
  refine ends_get.bind ?_
  rintro _ _ ⟨rfl, rfl⟩
  exact .pure ⟨rfl, rfl⟩

/-- A loop that ends with enough fuel ends with the turns that are left. -/
theorem loop_stays {loop : Nat → Scan α} {next : α → Scan β}
    (ends : ∀ fuel cursor, cursor.left < fuel →
      (loop fuel).Ends cursor fun _ later => later.left ≤ cursor.left)
    (goesOn : ∀ answer, Stays (next answer)) : Stays (do next (← loop (← turns))) := by
  intro cursor
  refine ends_turns.bind ?_
  rintro _ _ ⟨rfl, rfl⟩
  exact (ends _ _ (Nat.lt_succ_self _)).bind fun answer _ le =>
    (goesOn answer _).mono fun _ _ => (Nat.le_trans · le)

theorem isBreak_ne_endMark {c : Char} (isBreak : isBreak c = true) : c ≠ endMark := by
  rintro rfl
  revert isBreak
  decide

/-- A line end is passed exactly if the cursor is at one. -/
theorem ends_lineBreak :
    lineBreak?.Ends cursor fun found later =>
      found ≠ none ∧ later.left < cursor.left ∨
        found = none ∧ later = cursor ∧ isBreak cursor.next = false := by
  refine ends_peek.bind ?_
  rintro _ _ ⟨rfl, rfl⟩
  split
  next isBreak =>
    refine (ends_peekAt 1).discard.bind ?_
    rintro _ here ⟨_, -, rfl⟩
    refine (ends_modify _).bind ?_
    rintro _ _ rfl
    have positive := Cursor.left_pos (isBreak_ne_endMark isBreak)
    have shorter : here.behindLine.left = here.left - 1 := List.length_drop
    exact .pure (.inl ⟨nofun, by omega⟩)
  next noBreak => exact .pure (.inr ⟨rfl, rfl, eq_false_of_ne_true noBreak⟩)

theorem lineBreak_stays : Stays lineBreak? := fun _ =>
  ends_lineBreak.mono fun _ _ found => by
    obtain ⟨-, lt⟩ | ⟨-, same, -⟩ := found
    · exact Nat.le_of_lt lt
    · exact Nat.le_of_eq (by rw [same])

theorem atSeparator_same : atSeparator.Ends cursor fun _ later => later = cursor := by
  refine (ends_peekAt 2).discard.bind ?_
  rintro _ _ ⟨_, -, rfl⟩
  refine ends_get.bind ?_
  rintro _ _ ⟨rfl, rfl⟩
  dsimp only
  split
  · refine (ends_peekAt 3).bind ?_
    rintro _ _ ⟨-, rfl⟩
    exact .pure rfl
  · exact .pure rfl

theorem atSeparator_stays : Stays atSeparator := fun _ =>
  atSeparator_same.mono fun _ _ same => Nat.le_of_eq (congrArg Cursor.left same)

/-! ### Names, tags and directives -/

theorem readName_stays (cause : ProblemCause) : Stays (readName cause) :=
  peek_stays.bind fun _ => (require_stays _ cause).bind fun _ =>
    (run_stays _).bind fun _ => .pure _

theorem readAnchor_behind : Stays (do
    let name ← readName .badAnchor
    requireNext endsAnchor .badAnchor
    return name) :=
  (readName_stays _).bind fun _ => (requireNext_stays _ _).bind fun _ => .pure _

theorem readAnchor_advances (more : cursor.next ≠ endMark) : Advances readAnchor cursor :=
  (pass_advances Nat.one_pos more).bind_stays fun _ => readAnchor_behind

theorem hexDigitAt_stays (count : Nat) (cause : ProblemCause) : Stays (hexDigitAt count cause) := by
  refine (peekAt_stays count).bind fun c => ?_
  split
  · exact .pure _
  · exact problem_stays cause

/-- A percent sign is passed, and with it the bytes that follow. -/
theorem ends_readPercentBytes {fuel : Nat} (enough : cursor.left < fuel) (done : List UInt8) :
    (readPercentBytes fuel done).Ends cursor fun _ later =>
      later.left ≤ cursor.left ∧ (cursor.next = '%' → later.left < cursor.left) := by
  induction fuel generalizing cursor done with
  | zero => omega
  | succ fuel ih =>
      unfold readPercentBytes
      refine ends_peek.bind ?_
      rintro _ here ⟨rfl, rfl⟩
      split
      next isPercent =>
        have more : here.next ≠ endMark := by rw [eq_of_beq isPercent]; decide
        refine (pass_advances Nat.one_pos more).bind fun _ passed advances => ?_
        refine (hexDigitAt_stays 0 _ passed).bind fun high _ stays => ?_
        refine (hexDigitAt_stays 1 _ _).bind fun low _ staysToo => ?_
        refine (pass_stays 2 _).bind fun _ behind staysBehind => ?_
        refine (ih (by omega) _).mono fun _ later fits => ?_
        omega
      next noPercent =>
        exact .pure ⟨Nat.le_refl _, fun same => absurd (by rw [same]; rfl) noPercent⟩

theorem readUriFrom_stays {fuel : Nat} (enough : cursor.left < fuel) (done : List Char) :
    (readUriFrom fuel done).Ends cursor fun _ later => later.left ≤ cursor.left := by
  induction fuel generalizing cursor done with
  | zero => omega
  | succ fuel ih =>
      unfold readUriFrom
      refine (run_stays _ cursor).bind fun plain _ stays => ?_
      refine ends_peek.bind ?_
      rintro _ here ⟨rfl, rfl⟩
      split
      next isPercent =>
        refine ends_turns.bind ?_
        rintro _ here ⟨rfl, rfl⟩
        refine (ends_readPercentBytes (Nat.lt_succ_self _) []).bind fun bytes behind fits => ?_
        have := fits.2 (eq_of_beq isPercent)
        split
        · exact (ih (by omega) _).mono fun _ later _ => by omega
        · exact (problem_stays _ _).mono fun _ later _ => by omega
      next => exact .pure stays

theorem readUri_stays : Stays readUri :=
  peek_stays.bind fun _ => (require_stays _ _).bind fun _ =>
    loop_stays (fun _ _ enough => readUriFrom_stays enough []) fun _ => .pure _

/-- A handle starts with a mark, which is passed. -/
theorem readHandle_advances : Advances readHandle cursor := by
  refine (ends_requireNext _ _).bind ?_
  rintro _ here ⟨isMark, rfl⟩
  have more : here.next ≠ endMark := by rw [eq_of_beq isMark]; decide
  refine (ends_peekAt 1).bind ?_
  rintro _ _ ⟨-, rfl⟩
  split
  · exact (pass_advances Nat.one_pos more).bind_stays fun _ => .pure _
  · refine ends_get.bind ?_
    rintro _ _ ⟨rfl, rfl⟩
    refine (ends_peekAt _).bind ?_
    rintro _ _ ⟨-, rfl⟩
    split
    · exact (pass_advances (Nat.succ_pos _) more).bind_stays fun _ => .pure _
    · exact ends_problem _

theorem hasHandle_same : hasHandle.Ends cursor fun _ later => later = cursor := by
  refine ends_get.bind ?_
  rintro _ _ ⟨rfl, rfl⟩
  refine (ends_peekAt _).bind ?_
  rintro _ _ ⟨-, rfl⟩
  exact .pure rfl

theorem readTagForm_advances (more : cursor.next ≠ endMark) : Advances readTagForm cursor := by
  refine (ends_peekAt 1).bind ?_
  rintro _ _ ⟨-, rfl⟩
  split
  · exact (pass_advances Nat.two_pos more).bind_stays fun _ => readUri_stays.bind fun _ =>
      (requireNext_stays _ _).bind fun _ => (pass_stays 1).bind fun _ => .pure _
  split
  · exact (pass_advances Nat.one_pos more).bind_stays fun _ => .pure _
  refine hasHandle_same.bind ?_
  rintro _ _ rfl
  split
  · exact readHandle_advances.bind_stays fun _ => readUri_stays.bind fun _ => .pure _
  · exact (pass_advances Nat.one_pos more).bind_stays fun _ => readUri_stays.bind fun _ => .pure _

theorem readTag_advances (more : cursor.next ≠ endMark) : Advances readTag cursor :=
  (readTagForm_advances more).bind_stays fun _ => (requireNext_stays _ _).bind fun _ => .pure _

theorem endLine_stays (cause : ProblemCause) : Stays (endLine cause) :=
  skipSpaces_stays.bind fun _ => skipComment_stays.bind fun _ =>
    (requireNext_stays _ _).bind fun _ => lineBreak_stays.discard

theorem readVersionNumber_stays : Stays readVersionNumber := by
  refine (requireNext_stays _ _).bind fun _ => get_stays.bind fun cursor => ?_
  refine (peekAt_stays _).discard.bind fun _ => ?_
  split
  · exact .throw _
  · exact (pass_stays _).bind fun _ => .pure _

theorem readVersion_stays : Stays readVersion :=
  skipSpaces_stays.bind fun _ => readVersionNumber_stays.bind fun _ =>
    (requireNext_stays _ _).bind fun _ => (pass_stays 1).bind fun _ =>
      readVersionNumber_stays.bind fun _ => (requireNext_stays _ _).bind fun _ => .pure _

theorem readTagPrefix_stays : Stays readTagPrefix :=
  skipSpaces_stays.bind fun _ => Stays.bind (fun _ => readHandle_advances.stays) fun _ =>
    (requireNext_stays _ _).bind fun _ => skipSpaces_stays.bind fun _ =>
      readUri_stays.bind fun _ => (requireNext_stays _ _).bind fun _ => .pure _

theorem readDirectiveBody_stays (name : String) : Stays (readDirectiveBody name) := by
  unfold readDirectiveBody
  split
  · exact readVersion_stays
  split
  · exact readTagPrefix_stays
  · exact (run_stays _).discard.bind fun _ => .pure _

theorem readDirective_advances (more : cursor.next ≠ endMark) : Advances readDirective cursor :=
  (pass_advances Nat.one_pos more).bind_stays fun _ => (readName_stays _).bind fun name =>
    (requireNext_stays _ _).bind fun _ => (readDirectiveBody_stays name).bind fun _ =>
      (endLine_stays _).bind fun _ => .pure _

end Scan

end EntityDiagram.Yaml
