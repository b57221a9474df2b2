import EntityDiagram.Yaml.Ending.Scalar
import EntityDiagram.Yaml.Token.Lexer

/-!
# Reading all tokens ends

What is done about blocks and keys leaves the cursor where it is, and every token but the one for
the end of the text passes what it starts with.  So there are enough steps for the characters of a
text, and the text has tokens.
-/

namespace EntityDiagram.Yaml

open Steps

variable {α β : Type} {lexer : Lexer} {cursor : Cursor} {around : List (Option KeyCandidate)}

/-- A lexer stands at a cursor, with these candidates around the innermost flow collection. -/
structure Lexer.At (cursor : Cursor) (around : List (Option KeyCandidate)) (lexer : Lexer) :
    Prop where
  cursor : lexer.cursor = cursor
  around : lexer.around = around

namespace Lex

/-- Steps end at the cursor and in the flow collections that they start in. -/
def Keeps (steps : Lex α) : Prop :=
  ∀ cursor around lexer, lexer.At cursor around → steps.Ends lexer fun _ => Lexer.At cursor around

/-- Steps that start at a cursor end and leave less than there was. -/
def Advances (cursor : Cursor) (around : List (Option KeyCandidate)) (steps : Lex α) : Prop :=
  ∀ lexer, lexer.At cursor around →
    steps.Ends lexer fun _ later => later.cursor.left < cursor.left

theorem Keeps.bind {steps : Lex α} {next : α → Lex β} (keeps : Keeps steps)
    (goesOn : ∀ answer, Keeps (next answer)) : Keeps (steps >>= next) := fun _ _ lexer stands =>
  (keeps _ _ lexer stands).bind fun answer later => goesOn answer _ _ later

theorem Keeps.pure (answer : α) : Keeps (pure answer) := fun _ _ _ stands => .pure stands

theorem Keeps.bind_advances {steps : Lex α} {next : α → Lex β} (keeps : Keeps steps)
    (goesOn : ∀ answer, Advances cursor around (next answer)) :
    Advances cursor around (steps >>= next) := fun lexer stands =>
  (keeps _ _ lexer stands).bind fun answer later => goesOn answer later

theorem get_keeps : Keeps get := fun _ _ _ stands =>
  ends_get.mono fun _ _ ⟨_, same⟩ => by rwa [same]

theorem set_keeps {changed : Lexer} (stands : changed.At cursor around) :
    (set changed : Lex Unit).Ends lexer fun _ => Lexer.At cursor around :=
  (ends_set changed).mono fun _ _ same => by rwa [same]

theorem modify_keeps {change : Lexer → Lexer}
    (stands : ∀ lexer, (change lexer).At lexer.cursor lexer.around) : Keeps (modify change) := by
  rintro _ _ lexer ⟨rfl, rfl⟩
  exact (ends_modify change).mono fun _ _ same => by rw [same]; exact stands lexer

theorem ends_scan {read : Scan α} {good : α → Cursor → Prop} (ends : read.Ends lexer.cursor good) :
    (scan read).Ends lexer fun answer later =>
      ∃ cursor, good answer cursor ∧ later = { lexer with cursor } := by
  obtain ⟨outcome, runs, fits⟩ := ends
  cases outcome with
  | error fault => exact ⟨.error fault, by simp_all [scan, StateT.run, Except.map], nofun⟩
  | ok result =>
      obtain ⟨answer, cursor⟩ := result
      refine ⟨.ok (answer, { lexer with cursor }), ?_, ?_⟩
      · simp_all [scan, StateT.run, Except.map]
      · rintro _ _ ⟨⟩
        exact ⟨cursor, fits answer cursor rfl, rfl⟩

theorem ends_problem (cause : ProblemCause) {good : α → Lexer → Prop} :
    (problem cause).Ends lexer good := by
  have impossible : (Scan.problem cause : Scan α).Ends lexer.cursor fun _ _ => False :=
    Scan.ends_problem cause
  exact (ends_scan impossible).mono fun _ _ ⟨_, no, _⟩ => no.elim

/-! ### Keys and blocks -/

theorem dropKey_keeps : Keeps dropKey := by
  intro _ _ lexer stands
  refine ends_get.bind ?_
  rintro _ _ ⟨rfl, rfl⟩
  split
  · exact .pure stands
  refine (ends_lift _).bind ?_
  rintro _ _ ⟨-, rfl⟩
  exact set_keeps ⟨stands.cursor, stands.around⟩

theorem saveKey_keeps : Keeps saveKey := by
  refine get_keeps.bind fun lexer => ?_
  split
  · exact dropKey_keeps.bind fun _ => modify_keeps fun _ => ⟨rfl, rfl⟩
  · exact .pure ()

theorem allowKey_keeps (allowed : Bool) : Keeps (allowKey allowed) :=
  modify_keeps fun _ => ⟨rfl, rfl⟩

theorem closeBlocks_at (column : Int) (stands : lexer.At cursor around) :
    (lexer.closeBlocks column).At cursor around := by
  have closes (outer : List Int) {lexer : Lexer} (stands : lexer.At cursor around) :
      (Lexer.closeBlocks.close column outer lexer).At cursor around := by
    induction outer generalizing lexer with
    | nil => exact stands
    | cons _ outer ih =>
        unfold Lexer.closeBlocks.close
        split
        · exact ih ⟨stands.cursor, stands.around⟩
        · exact stands
  unfold Lexer.closeBlocks
  split
  · exact stands
  · exact closes _ stands

theorem leaveBlocks_keeps : Keeps leaveBlocks :=
  (modify_keeps fun _ => closeBlocks_at _ ⟨rfl, rfl⟩).bind fun _ => dropKey_keeps.bind fun _ =>
    allowKey_keeps _

theorem finish_keeps : Keeps finish :=
  leaveBlocks_keeps.bind fun _ => modify_keeps fun _ => ⟨rfl, rfl⟩

theorem openBlock_keeps (opening : TokenKind) (cause : ProblemCause) :
    Keeps (openBlock opening cause) := by
  intro _ _ lexer stands
  refine ends_get.bind ?_
  rintro _ _ ⟨rfl, rfl⟩
  split
  · exact .pure stands
  split
  · exact ends_problem _
  dsimp only
  split
  · exact set_keeps ⟨stands.cursor, stands.around⟩
  · exact .pure stands

/-! ### Tokens -/

theorem token_advances {read : Scan TokenKind} (advances : Scan.Advances read cursor) :
    Advances cursor around (token read) := by
  rintro lexer ⟨rfl, rfl⟩
  refine ends_get.bind ?_
  rintro _ _ ⟨rfl, rfl⟩
  refine (ends_scan advances).bind ?_
  rintro kind _ ⟨cursor, lt, rfl⟩
  exact (ends_modify _).mono fun _ _ same => by rw [same]; exact lt

theorem markKey_at (candidate : KeyCandidate) (lexer : Lexer) :
    (markKey candidate lexer).At lexer.cursor lexer.around := by
  unfold markKey
  dsimp only
  split <;> exact ⟨rfl, rfl⟩

section

variable (more : cursor.next ≠ endMark)

include more

theorem fixed_advances (kind : TokenKind) {length : Nat} (positive : 0 < length) :
    Advances cursor around (fixed kind length) :=
  token_advances ((Scan.pass_advances positive more).bind_stays fun _ => .pure _)

theorem separator_advances (kind : TokenKind) : Advances cursor around (separator kind) :=
  leaveBlocks_keeps.bind_advances fun _ => fixed_advances more kind (by decide)

theorem directive_advances : Advances cursor around directive :=
  leaveBlocks_keeps.bind_advances fun _ => token_advances (Scan.readDirective_advances more)

theorem openFlow_advances (kind : TokenKind) : Advances cursor around (openFlow kind) := by
  refine saveKey_keeps.bind_advances fun _ lexer stands => ?_
  refine (ends_modify _).bind ?_
  rintro _ _ rfl
  exact fixed_advances more kind Nat.one_pos _ ⟨stands.cursor, rfl⟩

theorem closeFlow_advances (kind : TokenKind) : Advances cursor around (closeFlow kind) := by
  refine dropKey_keeps.bind_advances fun _ lexer stands => ?_
  refine ends_get.bind ?_
  rintro _ _ ⟨rfl, rfl⟩
  split
  · exact ends_problem _
  refine (ends_set _).bind ?_
  rintro _ _ rfl
  exact fixed_advances more kind Nat.one_pos _ ⟨stands.cursor, rfl⟩

theorem flowEntry_advances : Advances cursor around flowEntry :=
  (allowKey_keeps _).bind_advances fun _ => dropKey_keeps.bind_advances fun _ =>
    fixed_advances more _ Nat.one_pos

theorem blockEntry_advances : Advances cursor around blockEntry :=
  (openBlock_keeps _ _).bind_advances fun _ => (allowKey_keeps _).bind_advances fun _ =>
    dropKey_keeps.bind_advances fun _ => fixed_advances more _ Nat.one_pos

theorem explicitKey_advances : Advances cursor around explicitKey :=
  (openBlock_keeps _ _).bind_advances fun _ => get_keeps.bind_advances fun _ =>
    (allowKey_keeps _).bind_advances fun _ => dropKey_keeps.bind_advances fun _ =>
      fixed_advances more _ Nat.one_pos

theorem value_advances : Advances cursor around value := by
  refine get_keeps.bind_advances fun lexer => ?_
  have passes : Advances cursor around (fixed .value 1) := fixed_advances more _ Nat.one_pos
  split
  · exact (modify_keeps fun lexer => markKey_at _ lexer).bind_advances fun _ => passes
  · exact (openBlock_keeps _ _).bind_advances fun _ => get_keeps.bind_advances fun _ =>
      (allowKey_keeps _).bind_advances fun _ => passes

theorem block_advances : Advances cursor around block :=
  (allowKey_keeps _).bind_advances fun _ => dropKey_keeps.bind_advances fun _ =>
    get_keeps.bind_advances fun _ =>
      token_advances ((Scan.readBlock_advances _ more).bind_stays fun _ => .pure _)

end

theorem part_advances {read : Scan TokenKind} (advances : Scan.Advances read cursor) :
    Advances cursor around (part read) :=
  saveKey_keeps.bind_advances fun _ => (allowKey_keeps _).bind_advances fun _ =>
    token_advances advances

theorem plain_advances (starts : Scan.StartsPlain (!around.isEmpty) cursor) :
    Advances cursor around plain := by
  refine saveKey_keeps.bind_advances ?_
  rintro _ lexer ⟨rfl, rfl⟩
  refine ends_get.bind ?_
  rintro _ _ ⟨rfl, rfl⟩
  refine (ends_scan (Scan.readPlain_advances starts _)).bind ?_
  rintro _ _ ⟨cursor, lt, rfl⟩
  exact (ends_modify _).mono fun _ _ same => by rw [same]; exact lt

theorem ends_gapFollows :
    gapFollows.Ends lexer fun answer later =>
      answer = isGap ((lexer.cursor.rest.drop 1).headD endMark) ∧ later = lexer := by
  have asks : Ends (do return isGap (← Scan.peekAt 1) : Scan Bool) lexer.cursor fun answer later =>
      answer = isGap ((lexer.cursor.rest.drop 1).headD endMark) ∧ later = lexer.cursor := by
    refine (Scan.ends_peekAt 1).bind ?_
    rintro _ _ ⟨rfl, rfl⟩
    exact .pure ⟨rfl, rfl⟩
  refine (ends_scan asks).mono ?_
  rintro _ _ ⟨_, ⟨rfl, rfl⟩, rfl⟩
  exact ⟨rfl, rfl⟩

/-- An indicator that does not count as one has to start a plain scalar. -/
theorem indicator_advances {alone : Bool} {read : Lex Unit} (advances : Advances cursor around read)
    (starts : alone = false → isGap ((cursor.rest.drop 1).headD endMark) = false →
      Scan.StartsPlain (!around.isEmpty) cursor) :
    Advances cursor around (indicator alone read) := by
  intro lexer stands
  unfold indicator
  split
  · exact advances lexer stands
  next notAlone =>
    refine ends_gapFollows.bind ?_
    rintro _ _ ⟨rfl, rfl⟩
    split
    · exact advances _ stands
    next noGap =>
      rw [stands.cursor] at noGap
      have starts := starts (eq_false_of_ne_true notAlone) (eq_false_of_ne_true noGap)
      exact plain_advances starts _ stands

theorem content_advances (more : cursor.next ≠ endMark) :
    Advances cursor around (content cursor.next) := by
  rintro lexer ⟨rfl, rfl⟩
  have stands : lexer.At lexer.cursor lexer.around := ⟨rfl, rfl⟩
  refine ends_get.bind ?_
  rintro _ lexer ⟨rfl, rfl⟩
  dsimp only
  split
  · exact openFlow_advances more _ _ stands
  · exact openFlow_advances more _ _ stands
  · exact closeFlow_advances more _ _ stands
  · exact closeFlow_advances more _ _ stands
  · exact flowEntry_advances more _ stands
  next isDash =>
    refine indicator_advances (blockEntry_advances more) (fun _ _ => ?_) _ stands
    exact Scan.startsPlain (by simp [isDash]) (by rw [isDash]; decide) (by simp [isDash])
      fun _ => by rw [isDash]; decide
  next isMark =>
    refine indicator_advances (explicitKey_advances more) (fun noFlow _ => ?_) _ stands
    exact Scan.startsPlain (by simp [isMark]) (by rw [isMark]; decide) (by simp [isMark])
      fun inFlow => absurd (inFlow.symm.trans noFlow) nofun
  next isColon =>
    refine indicator_advances (value_advances more) (fun noFlow noGap => ?_) _ stands
    exact Scan.startsPlain (by simp [isColon]) (by rw [isColon]; decide) (fun _ => ⟨noFlow, noGap⟩)
      fun inFlow => absurd (inFlow.symm.trans noFlow) nofun
  · exact part_advances (Scan.readAnchor_advances more).map _ stands
  · exact part_advances (Scan.readAnchor_advances more).map _ stands
  · exact part_advances (Scan.readTag_advances more) _ stands
  next isQuote =>
    have isQuote : lexer.cursor.next = Scan.endQuote false := isQuote
    exact part_advances (Scan.readQuoted_advances isQuote).map _ stands
  next isQuote =>
    have isQuote : lexer.cursor.next = Scan.endQuote true := isQuote
    exact part_advances (Scan.readQuoted_advances isQuote).map _ stands
  -- Any other character starts a scalar, or is refused.
  split
  · exact block_advances more _ stands
  split
  · exact ends_problem _
  next isPlain =>
    obtain ⟨noGap, noIndicator⟩ : isGap lexer.cursor.next = false ∧
        isIndicator lexer.cursor.next = false := by simpa using isPlain
    have ⟨noComment, noColon, noMark, noFlowMark⟩ := Scan.of_isIndicator_eq_false noIndicator
    exact plain_advances (Scan.startsPlain noComment noGap (absurd · noColon)
      fun _ => ⟨noFlowMark, noMark⟩) _ stands

theorem atSeparator_same (c : Char) : (atSeparator c).Ends lexer fun _ later => later = lexer := by
  unfold atSeparator
  split
  · exact (ends_scan Scan.atSeparator_same).mono fun _ _ ⟨_, same, equal⟩ => by rw [equal, same]
  · exact .pure rfl

theorem readToken_advances (more : cursor.next ≠ endMark) :
    Advances cursor around (readToken cursor.next) := by
  intro lexer stands
  refine ends_get.bind ?_
  rintro _ _ ⟨rfl, rfl⟩
  split
  · split
    · exact directive_advances more _ stands
    · refine (atSeparator_same _).bind ?_
      rintro _ _ rfl
      split
      · exact separator_advances more _ _ stands
      · exact content_advances more _ stands
  · exact content_advances more _ stands

theorem withoutStale_cursor {changed : Lexer} (found : withoutStale lexer = .ok changed) :
    changed.cursor = lexer.cursor := by
  simp only [withoutStale] at found
  cases around : lexer.around.mapM (dropStale lexer.cursor) with
  | error fault => rw [around] at found; cases found
  | ok kept =>
      rw [around] at found
      cases candidate : dropStale lexer.cursor lexer.candidate with
      | error fault => rw [candidate] at found; cases found
      | ok kept => rw [candidate] at found; cases found; rfl

theorem dropStaleKeys_stays :
    dropStaleKeys.Ends lexer fun _ later => later.cursor = lexer.cursor := by
  refine ends_get.bind ?_
  rintro _ _ ⟨rfl, rfl⟩
  refine (ends_lift _).bind ?_
  rintro changed _ ⟨found, rfl⟩
  refine (ends_set _).mono ?_
  rintro _ _ rfl
  exact withoutStale_cursor found

theorem ends_scan_stays {read : Scan α} (stays : Scan.Stays read) :
    (scan read).Ends lexer fun _ later => later.cursor.left ≤ lexer.cursor.left :=
  (ends_scan (stays lexer.cursor)).mono fun _ _ ⟨_, le, same⟩ => by rwa [same]

theorem skipGaps_stays {fuel : Nat} (enough : lexer.cursor.left < fuel) :
    (skipGaps fuel).Ends lexer fun _ later => later.cursor.left ≤ lexer.cursor.left := by
  induction fuel generalizing lexer with
  | zero => omega
  | succ fuel ih =>
      unfold skipGaps
      refine (ends_scan_stays Scan.skipSpaces_stays).bind fun _ _ stays => ?_
      refine (ends_scan_stays Scan.skipComment_stays).bind fun _ _ staysToo => ?_
      refine (ends_scan Scan.ends_lineBreak).bind ?_
      rintro found _ ⟨cursor, ⟨found, advances⟩ | ⟨rfl, rfl, -⟩, rfl⟩
      · split
        · contradiction
        refine (ends_modify _).bind ?_
        rintro _ _ rfl
        refine (ih ?_).mono fun _ later le => Nat.le_trans le ?_
        · dsimp only
          omega
        · dsimp only
          omega
      · exact .pure (by dsimp only; omega)

theorem skipOrderMark_stays :
    skipOrderMark.Ends lexer fun _ later => later.cursor.left ≤ lexer.cursor.left := by
  refine ends_get.bind ?_
  rintro _ _ ⟨rfl, rfl⟩
  split
  · refine (ends_scan_stays Scan.peek_stays).bind fun _ here stays => ?_
    split
    · exact (ends_scan_stays (Scan.pass_stays 1)).mono fun _ _ le => Nat.le_trans le stays
    · exact .pure stays
  · exact .pure (Nat.le_refl _)

theorem advance_stays :
    advance.Ends lexer fun _ later => later.cursor.left ≤ lexer.cursor.left := by
  refine skipOrderMark_stays.bind fun _ here stays => ?_
  refine (ends_scan Scan.ends_turns).bind ?_
  rintro _ _ ⟨_, ⟨rfl, rfl⟩, rfl⟩
  refine (skipGaps_stays (Nat.lt_succ_self _)).bind fun _ skipped staysToo => ?_
  refine dropStaleKeys_stays.bind fun _ dropped same => ?_
  refine (ends_modify _).mono ?_
  rintro _ _ rfl
  rw [(closeBlocks_at _ ⟨rfl, rfl⟩).cursor, same]
  exact Nat.le_trans staysToo stays

/-- A step that does not read the end of the text passes a character. -/
theorem ends_step :
    step.Ends lexer fun atEnd later => atEnd = false → later.cursor.left < lexer.cursor.left := by
  refine advance_stays.bind fun _ here stays => ?_
  refine (ends_scan Scan.ends_peek).bind ?_
  rintro _ _ ⟨_, ⟨rfl, rfl⟩, rfl⟩
  split
  · exact (finish_keeps _ _ here ⟨rfl, rfl⟩).bind fun _ _ _ => .pure nofun
  next more =>
    refine (readToken_advances (by simpa using more) _ ⟨rfl, rfl⟩).bind fun _ read advances => ?_
    refine dropStaleKeys_stays.bind fun _ dropped same => .pure fun _ => ?_
    rw [same]
    exact Nat.lt_of_lt_of_le advances stays

theorem readAll_isSome {fuel : Nat} (enough : lexer.cursor.left < fuel) :
    (readAll fuel lexer).isSome := by
  induction fuel generalizing lexer with
  | zero => omega
  | succ fuel ih =>
      obtain ⟨outcome, runs, fits⟩ := @ends_step lexer
      cases outcome with
      | error fault => simp [readAll, runs]
      | ok result =>
          obtain ⟨atEnd, next⟩ := result
          cases atEnd with
          | true => simp [readAll, runs]
          | false =>
              have advances := fits false next rfl rfl
              simpa [readAll, runs] using ih (by omega)

end Lex

/-- The tokens of a text. -/
def tokensOf (cursor : Cursor) : Tokens :=
  Option.get (Lex.readAll (cursor.left + 1) (Lexer.start cursor))
    (Lex.readAll_isSome (Nat.lt_succ_self _))

end EntityDiagram.Yaml
