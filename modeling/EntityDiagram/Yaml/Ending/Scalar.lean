import EntityDiagram.Yaml.Ending.Scan

/-!
# Scanning scalars ends

A turn of a loop over the parts of a scalar passes a part that is not empty, a quote, an escape or
the end of a line.  A scalar passes what it starts with, so that no token is read without passing a
character.
-/

namespace EntityDiagram.Yaml

open Steps

variable {cursor : Cursor} {fuel : Nat}

namespace Scan

/-! ### Plain scalars -/

theorem le_plainLength (inFlow : Bool) (length : Nat) (rest : List Char) :
    length ≤ plainLength inFlow length rest := by
  induction rest generalizing length with
  | nil => exact Nat.le_refl _
  | cons c rest ih =>
      unfold plainLength
      dsimp only
      split
      · exact Nat.le_refl _
      · exact Nat.le_trans (Nat.le_succ _) (ih _)

/-- Whether a plain scalar may start at the cursor. -/
def StartsPlain (inFlow : Bool) (cursor : Cursor) : Prop :=
  cursor.next ≠ '#' ∧ plainLength inFlow 0 cursor.rest ≠ 0

theorem startsPlain {inFlow : Bool} (noComment : cursor.next ≠ '#')
    (noGap : isGap cursor.next = false)
    (noColon : cursor.next = ':' →
      inFlow = false ∧ isGap ((cursor.rest.drop 1).headD endMark) = false)
    (noMark : inFlow = true → isFlowMark cursor.next = false ∧ cursor.next ≠ '?') :
    StartsPlain inFlow cursor := by
  refine ⟨noComment, ?_⟩
  cases rest : cursor.rest with
  | nil => simp [Cursor.next, rest, isGap, isSpaceOrEnd, isLineEnd] at noGap
  | cons c more =>
      have isNext : cursor.next = c := by simp [Cursor.next, rest]
      rw [isNext] at noGap noColon noMark
      rw [plainLength, if_neg]
      · exact Nat.ne_of_gt (le_plainLength inFlow 1 more)
      · cases inFlow <;> by_cases isColon : c = ':' <;> simp_all

theorem of_isIndicator_eq_false {c : Char} (noIndicator : isIndicator c = false) :
    c ≠ '#' ∧ c ≠ ':' ∧ c ≠ '?' ∧ isFlowMark c = false := by
  simp_all [isIndicator]

/-- What is passed as a part is what is returned. -/
theorem ends_passPart (inFlow : Bool) {length : Nat}
    (equals : plainLength inFlow 0 cursor.rest = length) :
    Ends (do pass length; return cursor.rest.take length) cursor fun part later =>
      later.left ≤ cursor.left ∧ (part.isEmpty = false → later.left < cursor.left) ∧
        (StartsPlain inFlow cursor → part.isEmpty = false) := by
  refine (ends_pass _).bind ?_
  rintro _ _ rfl
  refine .pure ⟨?_, ?_, ?_⟩
  · rw [Cursor.left_behind]
    exact Nat.sub_le _ _
  · rw [Cursor.left_behind]
    intro isPart
    have ⟨positive, more⟩ : length ≠ 0 ∧ cursor.rest ≠ [] := by
      simpa [List.take_eq_nil_iff] using isPart
    exact Nat.sub_lt (List.length_pos_iff.mpr more) (Nat.pos_of_ne_zero positive)
  · rintro ⟨-, starts⟩
    cases rest : cursor.rest with
    | nil => simp [rest, plainLength] at starts
    | cons c rest => simp [← equals, rest] at starts ⊢; simpa using starts

theorem ends_plainPart (inFlow : Bool) :
    (plainPart inFlow).Ends cursor fun part later =>
      later.left ≤ cursor.left ∧ (part.isEmpty = false → later.left < cursor.left) ∧
        (StartsPlain inFlow cursor → part.isEmpty = false) := by
  refine ends_get.bind ?_
  rintro _ here ⟨rfl, rfl⟩
  refine (ends_peekAt _).bind ?_
  rintro _ _ ⟨-, rfl⟩
  dsimp only
  split
  · refine (ends_peekAt _).discard.bind ?_
    rintro _ _ ⟨_, -, rfl⟩
    exact ends_passPart inFlow rfl
  · exact ends_passPart inFlow rfl

theorem plainBreaks_stays (enough : cursor.left < fuel) (done : List Char) :
    (plainBreaks fuel done).Ends cursor fun _ later => later.left ≤ cursor.left := by
  induction fuel generalizing cursor done with
  | zero => omega
  | succ fuel ih =>
      unfold plainBreaks
      refine (skipSpaces_stays cursor).bind fun _ here stays => ?_
      refine ends_lineBreak.bind fun found passed fits => ?_
      obtain ⟨found, advances⟩ | ⟨rfl, rfl, -⟩ := fits
      · split
        · contradiction
        refine (atSeparator_stays _).bind fun _ _ staysToo => ?_
        split
        · exact .pure (by omega)
        · exact (ih (by omega) _).mono fun _ later _ => by omega
      · exact .pure stays

theorem plainGap_stays : Stays plainGap := by
  refine (run_stays _).bind fun spaces => lineBreak_stays.bind fun found => ?_
  split
  · exact .pure _
  refine atSeparator_stays.bind fun separator => ?_
  split
  · exact .pure _
  refine loop_stays (fun _ _ enough => plainBreaks_stays enough []) fun more => ?_
  split
  · exact .pure _
  · exact .pure _

theorem ends_readPlainFrom (inFlow : Bool) (indent : Int) (enough : cursor.left < fuel)
    (done : List (List Char)) (gap : List Char) (lineEnded : Bool) :
    (readPlainFrom inFlow indent fuel done gap lineEnded).Ends cursor fun _ later =>
      later.left ≤ cursor.left ∧ (StartsPlain inFlow cursor → later.left < cursor.left) := by
  induction fuel generalizing cursor done gap lineEnded with
  | zero => omega
  | succ fuel ih =>
      unfold readPlainFrom
      refine ends_peek.bind ?_
      rintro _ here ⟨rfl, rfl⟩
      split
      next isComment =>
        exact .pure ⟨Nat.le_refl _, fun starts => absurd (eq_of_beq isComment) starts.1⟩
      refine (ends_plainPart inFlow).bind fun part passed fits => ?_
      obtain ⟨stays, advances, starts⟩ := fits
      split
      next isEmpty => exact .pure ⟨stays, fun plain => by simp [starts plain] at isEmpty⟩
      next isPart =>
        have advances := advances (eq_false_of_ne_true isPart)
        refine (plainGap_stays _).bind fun gap _ staysToo => ?_
        refine ends_get.bind ?_
        rintro _ _ ⟨rfl, rfl⟩
        split
        · exact .pure (by omega)
        · exact (ih (by omega) _ _ _).mono fun _ later _ => by omega

theorem readPlain_advances {inFlow : Bool} (starts : StartsPlain inFlow cursor) (indent : Int) :
    Advances (readPlain inFlow indent) cursor := by
  refine ends_turns.bind ?_
  rintro _ _ ⟨rfl, rfl⟩
  exact (ends_readPlainFrom inFlow indent (Nat.lt_succ_self _) [] [] false).mono fun _ _ fits =>
    fits.2 starts

/-! ### Quoted scalars -/

theorem quotedBreaks_stays (enough : cursor.left < fuel) (done : List Char) :
    (quotedBreaks fuel done).Ends cursor fun _ later => later.left ≤ cursor.left := by
  induction fuel generalizing cursor done with
  | zero => omega
  | succ fuel ih =>
      unfold quotedBreaks
      refine (atSeparator_stays cursor).bind fun _ here stays => ?_
      split
      · exact ends_problem _
      refine ((run_stays _).discard here).bind fun _ _ staysToo => ?_
      refine ends_lineBreak.bind fun found passed fits => ?_
      obtain ⟨found, advances⟩ | ⟨rfl, rfl, -⟩ := fits
      · split
        · contradiction
        · exact (ih (by omega) _).mono fun _ later _ => by omega
      · exact .pure (by omega)

theorem Stays.mapM {α β : Type} {scan : α → Scan β} (stays : ∀ item, Stays (scan item))
    (items : List α) : Stays (items.mapM scan) := by
  induction items with
  | nil => exact .pure []
  | cons item items ih =>
      rw [List.mapM_cons]
      exact (stays item).bind fun _ => ih.bind fun _ => .pure _

theorem readCodePoint_stays (width : Nat) : Stays (readCodePoint width) := by
  refine (Stays.mapM (fun _ => hexDigitAt_stays _ _) _).bind fun digits => ?_
  dsimp only
  split
  · exact .throw _
  · exact (pass_stays width).bind fun _ => .pure _

theorem readEscape_advances (more : cursor.next ≠ endMark) : Advances readEscape cursor := by
  refine (pass_advances Nat.one_pos more).bind_stays fun _ => peek_stays.bind fun c => ?_
  split
  · exact (pass_stays 1).bind fun _ => .pure _
  · exact (pass_stays 1).bind fun _ => (readCodePoint_stays _).bind fun _ => .pure _
  refine lineBreak_stays.bind fun found => ?_
  split
  · exact loop_stays (fun _ _ enough => quotedBreaks_stays enough []) fun _ => .pure _
  · exact problem_stays _

/-- The quote that ends a quoted scalar. -/
def endQuote (double : Bool) : Char := if double then '"' else '\''

/-- What ends a run in a quoted scalar, other than its quote and gaps, is passed. -/
theorem passed_of_endsQuotedRun {double : Bool} {c : Char} (ends : endsQuotedRun c = true)
    (noQuote : c ≠ endQuote double) (noGap : isGap c = false) :
    (double && c == '\'' || !double && (c == '"' || c == '\\')) = true ∨
      (double && c == '\\') = true := by
  cases double <;> simp_all [endsQuotedRun, endQuote]

/-- A part of a quoted scalar that starts with anything but its quote or a gap passes it. -/
theorem ends_quotedPart (double : Bool) (enough : cursor.left < fuel) (done : List Text) :
    (quotedPart double fuel done).Ends cursor fun _ later =>
      later.left ≤ cursor.left ∧
        (cursor.next ≠ endQuote double → isGap cursor.next = false → later.left < cursor.left) := by
  induction fuel generalizing cursor done with
  | zero => omega
  | succ fuel ih =>
      unfold quotedPart
      refine (ends_run_or (by decide)).bind fun _ ran fits => ?_
      obtain ⟨stays, fits⟩ := fits
      have further {passed : Cursor} (advances : passed.left < ran.left) (done : List Text) :
          (quotedPart double fuel done).Ends passed fun _ later =>
            later.left ≤ cursor.left ∧ (cursor.next ≠ endQuote double →
              isGap cursor.next = false → later.left < cursor.left) :=
        (ih (by omega) done).mono fun _ later _ => by omega
      refine ends_peek.bind ?_
      rintro _ ran ⟨rfl, rfl⟩
      split
      next isQuote =>
        refine (ends_peekAt 1).bind ?_
        rintro _ ran ⟨-, rfl⟩
        split
        · have more : ran.next ≠ endMark := fun isEnd => by simp [isEnd, endMark] at isQuote
          exact (pass_advances Nat.two_pos more).bind fun _ _ advances => further advances _
        · refine .pure ⟨stays, fun noQuote _ => fits.resolve_right fun same => noQuote ?_⟩
          cases double <;> simp_all [endQuote]
      split
      next isOther =>
        have more : ran.next ≠ endMark := fun isEnd => by simp [isEnd, endMark] at isOther
        exact (pass_advances Nat.one_pos more).bind fun _ _ advances => further advances _
      split
      next isEscape =>
        have more : ran.next ≠ endMark := fun isEnd => by simp [isEnd, endMark] at isEscape
        exact (readEscape_advances more).bind fun _ _ advances => further advances _
      next noOther noEscape =>
        refine .pure ⟨stays, fun noQuote noGap => fits.resolve_right fun same => ?_⟩
        obtain ⟨ends, same⟩ := same
        rw [same] at noOther noEscape
        exact (passed_of_endsQuotedRun (by simpa using ends) noQuote noGap).elim noOther noEscape

/-- A gap is passed, unless something else stands at the cursor. -/
theorem ends_quotedGap :
    quotedGap.Ends cursor fun _ later =>
      later.left ≤ cursor.left ∧
        (later.left < cursor.left ∨ later.next = cursor.next ∧ isGap cursor.next = false) := by
  refine (ends_run_or (by decide)).bind fun _ ran fits => ?_
  obtain ⟨stays, fits⟩ := fits
  refine (ends_requireNext _ _).bind ?_
  rintro _ ran ⟨more, rfl⟩
  refine ends_lineBreak.bind fun found passed ends => ?_
  obtain ⟨found, advances⟩ | ⟨rfl, rfl, noBreak⟩ := ends
  · split
    · contradiction
    next first =>
      have ends := loop_stays (fun _ _ enough => quotedBreaks_stays enough []) fun breaks =>
        Stays.pure (foldedBreaks first breaks)
      exact (ends passed).mono fun _ later _ => by omega
  · refine .pure ⟨stays, fits.imp_right fun ⟨noSpace, same⟩ => ⟨same, ?_⟩⟩
    simp_all [isGap, isSpaceOrEnd, isLineEnd]

theorem quotedRest_stays {double : Bool} (enough : cursor.left < fuel) (done : List Text) :
    (quotedRest (endQuote double) fuel done).Ends cursor fun _ later =>
      later.left ≤ cursor.left := by
  induction fuel generalizing cursor done with
  | zero => omega
  | succ fuel ih =>
      have isDouble : (endQuote double == '"') = double := by cases double <;> rfl
      simp only [quotedRest, isDouble]
      refine ends_peek.bind ?_
      rintro _ here ⟨rfl, rfl⟩
      split
      · exact (pass_stays 1 here).bind fun _ _ stays => .pure stays
      next noQuote =>
        refine ends_quotedGap.bind fun gap behind fits => ?_
        obtain ⟨stays, fits⟩ := fits
        refine ends_turns.bind ?_
        rintro _ _ ⟨rfl, rfl⟩
        refine (ends_quotedPart double (Nat.lt_succ_self _) _).bind fun parts later passed => ?_
        have advances : later.left < here.left := by
          obtain advances | ⟨same, noGap⟩ := fits
          · omega
          · rw [same] at passed
            have := passed.2 (by simpa using noQuote) noGap
            omega
        exact (ih (by omega) _).mono fun _ later _ => by omega

theorem readQuoted_advances {double : Bool} (isQuote : cursor.next = endQuote double) :
    Advances readQuoted cursor := by
  refine ends_peek.bind ?_
  rintro _ here ⟨rfl, rfl⟩
  have more : here.next ≠ endMark := by rw [isQuote]; cases double <;> decide
  refine (pass_advances Nat.one_pos more).bind_stays fun _ => ?_
  rw [isQuote]
  refine loop_stays (fun _ _ enough => ?_) fun first =>
    loop_stays (fun _ _ enough => quotedRest_stays enough first) fun parts => .pure _
  exact (ends_quotedPart _ enough []).mono fun _ _ fits => fits.1

/-! ### Block scalars -/

theorem readChomping_stays : Stays readChomping := by
  refine peek_stays.bind fun c => ?_
  split
  · exact (pass_stays 1).bind fun _ => .pure _
  split
  · exact (pass_stays 1).bind fun _ => .pure _
  · exact .pure _

theorem readIncrement_stays : Stays readIncrement := by
  refine peek_stays.bind fun c => ?_
  split
  · exact problem_stays _
  split
  · exact (pass_stays 1).bind fun _ => .pure _
  · exact .pure _

theorem readIndicators_stays : Stays readIndicators := by
  refine readChomping_stays.bind fun chomping => ?_
  split
  · exact readIncrement_stays.bind fun _ => .pure _
  refine readIncrement_stays.bind fun increment => ?_
  split
  · exact readChomping_stays.bind fun _ => .pure _
  · exact .pure _

theorem readBlockHeader_stays : Stays readBlockHeader :=
  readIndicators_stays.bind fun _ => (requireNext_stays _ _).bind fun _ =>
    (endLine_stays _).bind fun _ => .pure _

theorem skipIndent_stays (indent : Nat) : Stays (skipIndent indent) :=
  get_stays.bind fun _ => pass_stays _

theorem blockBreaks_stays (indent : Nat) (enough : cursor.left < fuel) (done : List Char) :
    (blockBreaks indent fuel done).Ends cursor fun _ later => later.left ≤ cursor.left := by
  induction fuel generalizing cursor done with
  | zero => omega
  | succ fuel ih =>
      unfold blockBreaks
      refine (skipIndent_stays indent cursor).bind fun _ here stays => ?_
      refine ends_lineBreak.bind fun found passed fits => ?_
      obtain ⟨found, advances⟩ | ⟨rfl, rfl, -⟩ := fits
      · split
        · contradiction
        · exact (ih (by omega) _).mono fun _ later _ => by omega
      · exact .pure stays

theorem blockIndent_stays (enough : cursor.left < fuel) (done : List Char) (widest : Nat) :
    (blockIndent fuel done widest).Ends cursor fun _ later => later.left ≤ cursor.left := by
  induction fuel generalizing cursor done widest with
  | zero => omega
  | succ fuel ih =>
      unfold blockIndent
      refine (skipSpaces_stays cursor).bind fun _ here stays => ?_
      refine ends_get.bind ?_
      rintro _ _ ⟨rfl, rfl⟩
      refine ends_lineBreak.bind fun found passed fits => ?_
      obtain ⟨found, advances⟩ | ⟨rfl, rfl, -⟩ := fits
      · split
        · contradiction
        · exact (ih (by omega) _ _).mono fun _ later _ => by omega
      · exact .pure stays

theorem ends_goesOn (indent : Nat) :
    (goesOn indent).Ends cursor fun answer later =>
      (answer = true → cursor.next ≠ endMark) ∧ later = cursor := by
  refine ends_peek.bind ?_
  rintro _ _ ⟨rfl, rfl⟩
  refine ends_get.bind ?_
  rintro _ _ ⟨rfl, rfl⟩
  exact .pure ⟨by simp, rfl⟩

theorem atSpaceOrTab_same : atSpaceOrTab.Ends cursor fun _ later => later = cursor := by
  refine ends_peek.bind ?_
  rintro _ _ ⟨rfl, rfl⟩
  exact .pure rfl

theorem blockLines_stays (folded : Bool) (indent : Nat) (enough : cursor.left < fuel)
    (done : List (List Char)) (breaks lastBreak : List Char) :
    (blockLines folded indent fuel done breaks lastBreak).Ends cursor fun _ later =>
      later.left ≤ cursor.left := by
  induction fuel generalizing cursor done breaks lastBreak with
  | zero => omega
  | succ fuel ih =>
      unfold blockLines
      refine (ends_goesOn indent).bind ?_
      rintro _ here ⟨more, rfl⟩
      split
      next goes =>
        refine atSpaceOrTab_same.bind ?_
        rintro _ here rfl
        -- A line without text is passed with its end.
        refine (ends_run_or (by decide)).bind fun line ran fits => ?_
        refine ends_lineBreak.bind fun ended broken ends => ?_
        have advances : broken.left < here.left := by
          obtain ⟨stays, advances | ⟨noText, same⟩⟩ := fits
          · obtain ⟨-, further⟩ | ⟨-, rfl, -⟩ := ends
            · omega
            · exact advances
          · obtain ⟨-, further⟩ | ⟨-, -, noBreak⟩ := ends
            · omega
            · rw [same] at noBreak
              simp_all [isLineEnd]
        refine ends_turns.bind ?_
        rintro _ _ ⟨rfl, rfl⟩
        refine (blockBreaks_stays indent (Nat.lt_succ_self _) []).bind fun _ _ stays => ?_
        refine (ends_goesOn indent).bind ?_
        rintro _ _ ⟨-, rfl⟩
        split
        · refine atSpaceOrTab_same.bind ?_
          rintro _ _ rfl
          exact (ih (by omega) _ _ _).mono fun _ later _ => by omega
        · exact .pure (by omega)
      next => exact .pure (Nat.le_refl _)

theorem readIndent_stays (least : Nat) (increment : Option Nat) :
    Stays (readIndent least increment) := by
  cases increment with
  | none => exact loop_stays (fun _ _ enough => blockIndent_stays enough [] 0) fun _ => .pure _
  | some increment =>
      exact loop_stays (fun _ _ enough => blockBreaks_stays _ enough []) fun _ => .pure _

theorem readBlock_advances (outer : Int) (more : cursor.next ≠ endMark) :
    Advances (readBlock outer) cursor := by
  refine ends_peek.bind ?_
  rintro _ here ⟨rfl, rfl⟩
  refine (pass_advances Nat.one_pos more).bind_stays fun _ => ?_
  refine readBlockHeader_stays.bind fun header => (readIndent_stays _ _).bind fun indented => ?_
  exact loop_stays (fun _ _ enough => blockLines_stays _ _ enough [] _ []) fun _ => .pure _

end Scan

end EntityDiagram.Yaml
