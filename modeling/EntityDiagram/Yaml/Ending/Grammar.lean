import EntityDiagram.Yaml.Grammar

/-!
# Reading ends

Each function of the grammar passes a token, or goes on to one that needs less fuel at the same
place. So four calls for each token, and four more, are enough, and a document is read without an
outcome for fuel that is used up.
-/

namespace EntityDiagram.Yaml

open Steps

variable {α : Type} {reader : Reader}

/-- How many tokens are left. -/
def Reader.size (reader : Reader) : Nat := reader.tokens.length

theorem Reader.size_pos (reads : reader.next.kind ≠ .streamEnd) : 0 < reader.size := by
  refine List.length_pos_iff.mpr fun empty => reads ?_
  simp [Reader.next, empty]

/-- A reading ends and leaves no more than there was. -/
def Read.Stays (read : Read α) (reader : Reader) : Prop :=
  read.Ends reader fun _ later => later.size ≤ reader.size

/-- A reading ends and leaves less than there was. -/
def Read.Advances (read : Read α) (reader : Reader) : Prop :=
  read.Ends reader fun _ later => later.size < reader.size

/-! ### One step -/

namespace Read

theorem ends_nextToken :
    nextToken.Ends reader fun token later => token = reader.next ∧ later = reader := by
  unfold nextToken
  refine ends_get.bind ?_
  rintro _ _ ⟨rfl, rfl⟩
  split
  · exact .throw _
  · exact .pure ⟨rfl, rfl⟩

theorem ends_nextKind :
    nextKind.Ends reader fun kind later => kind = reader.next.kind ∧ later = reader := by
  refine ends_nextToken.bind ?_
  rintro _ _ ⟨rfl, rfl⟩
  exact .pure ⟨rfl, rfl⟩

theorem passToken_advances (reads : reader.next.kind ≠ .streamEnd) : passToken.Advances reader := by
  refine (ends_modify _).mono ?_
  rintro _ _ rfl
  have positive := Reader.size_pos reads
  simp only [Reader.size, List.length_drop] at positive ⊢
  omega

theorem ends_refuseAt (token : Token) (cause : ProblemCause) {good : α → Reader → Prop} :
    (refuseAt token cause).Ends reader good :=
  .throw _

theorem ends_refuse (cause : ProblemCause) {good : α → Reader → Prop} :
    (refuse cause).Ends reader good :=
  ends_nextToken.bind fun token _ _ => ends_refuseAt token cause

theorem expect_advances {kind : TokenKind} (isToken : kind ≠ .streamEnd) (cause : ProblemCause) :
    (expect kind cause).Advances reader := by
  refine ends_nextKind.bind ?_
  rintro _ _ ⟨rfl, rfl⟩
  split
  next equal => exact passToken_advances (by rwa [eq_of_beq equal])
  next => exact ends_refuse cause

theorem expectComma_stays (first : Bool) : (expectComma first).Stays reader := by
  unfold expectComma
  split
  · exact .pure (Nat.le_refl _)
  · exact (expect_advances (by decide) _).mono fun _ _ => Nat.le_of_lt

theorem ends_emptyScalar : emptyScalar.Ends reader fun _ later => later = reader := by
  refine ends_nextToken.bind ?_
  rintro _ _ ⟨-, rfl⟩
  exact .pure rfl

theorem emptyScalar_stays : emptyScalar.Stays reader :=
  ends_emptyScalar.mono fun _ _ same => Nat.le_of_eq (by rw [same])

theorem ends_tagText (first : Token) (tag : Option (Option String × String)) :
    (tagText first tag).Ends reader fun _ later => later = reader := by
  match tag with
  | none => exact .pure rfl
  | some (none, suffix) => exact .pure rfl
  | some (some handle, suffix) =>
      refine ends_get.bind ?_
      rintro _ _ ⟨rfl, rfl⟩
      split
      · exact .pure rfl
      · exact ends_refuseAt _ _

theorem ends_announce (first : Token) (anchor : Option String) :
    (announce first anchor).Ends reader fun _ later => later.size = reader.size := by
  cases anchor with
  | none => exact .pure rfl
  | some name =>
      refine ends_get.bind ?_
      rintro _ _ ⟨rfl, rfl⟩
      split
      · exact ends_refuseAt _ _
      · exact (ends_modify _).mono (by rintro _ _ rfl; rfl)

theorem ends_fulfil (anchor : Option String) (node : Node) :
    (fulfil anchor node).Ends reader fun _ later => later.size = reader.size := by
  cases anchor with
  | none => exact .pure rfl
  | some name =>
      refine (ends_modify _).bind ?_
      rintro _ _ rfl
      exact .pure rfl

theorem ends_newNumber : newNumber.Ends reader fun _ later => later.size = reader.size := by
  refine ends_get.bind ?_
  rintro _ _ ⟨rfl, rfl⟩
  split
  · exact .pure rfl
  · refine (ends_modify _).bind ?_
    rintro _ _ rfl
    exact .pure rfl

/-- An alias is passed, since its own token stands next. -/
theorem resolveAlias_advances (name : String) (reads : reader.next.kind ≠ .streamEnd) :
    (resolveAlias name).Advances reader := by
  refine ends_get.bind ?_
  rintro _ _ ⟨rfl, rfl⟩
  split
  · exact (passToken_advances reads).bind fun _ _ passed => .pure passed
  · exact .throw _
  · exact ends_refuse _

/-- A node has properties only if tokens are passed. -/
theorem ends_readProperties :
    readProperties.Ends reader fun properties later =>
      later.size ≤ reader.size ∧ (properties.isEmpty = false → later.size < reader.size) := by
  refine ends_nextKind.bind ?_
  rintro _ _ ⟨equal, rfl⟩
  split
  case h_3 => exact .pure ⟨Nat.le_refl _, nofun⟩
  -- An anchor and a tag in either order: the second of them may be missing.
  all_goals
    refine (passToken_advances (by simp [← equal])).bind fun _ middle passed => ?_
    refine ends_nextKind.bind ?_
    rintro _ _ ⟨equal, rfl⟩
    split
    · refine (passToken_advances (by simp [← equal])).bind fun _ later passedToo => .pure ?_
      omega
    · exact .pure (by omega)

theorem kind_eq_of_and {kind other : TokenKind} {condition : Bool}
    (both : (kind == other && condition) = true) : kind = other :=
  eq_of_beq (Bool.and_eq_true_iff.mp both).1

end Read

/-! ### The grammar -/

/-- With some fuel, every function of the grammar ends on the readers that are small enough for it.
The functions that go on to others at the same place need more than those. -/
structure GrammarEnds (fuel : Nat) : Prop where
  node (position : Position) (reader : Reader) (enough : 4 * reader.size + 3 ≤ fuel) :
    (readNode fuel position).Advances reader
  content (position : Position) (first : Token) (properties : Properties) (uri : Option String)
    (reader : Reader) (enough : 4 * reader.size + 2 ≤ fuel) :
    (readContent fuel position first properties uri).Ends reader fun _ later =>
      later.size ≤ reader.size ∧ (properties.isEmpty → later.size < reader.size)
  items (indented : Bool) (done : List Node) (reader : Reader)
    (enough : 4 * reader.size + 1 ≤ fuel) :
    (readItems fuel indented done).Ends reader fun _ later =>
      later.size ≤ reader.size ∧ (reader.next.kind = .blockEntry → later.size < reader.size)
  entries (done : List (Node × Node)) (reader : Reader) (enough : 4 * reader.size + 1 ≤ fuel) :
    (readEntries fuel done).Stays reader
  blockValue (reader : Reader) (enough : 4 * reader.size + 1 ≤ fuel) :
    (readBlockValue fuel).Stays reader
  blockPart (reader : Reader) (enough : 4 * reader.size + 4 ≤ fuel) :
    (readBlockPart fuel).Stays reader
  flowItems (done : List Node) (reader : Reader) (enough : 4 * reader.size + 4 ≤ fuel) :
    (readFlowItems fuel done).Stays reader
  flowEntries (done : List (Node × Node)) (reader : Reader)
    (enough : 4 * reader.size + 4 ≤ fuel) :
    (readFlowEntries fuel done).Stays reader
  flowPart (closing : TokenKind) (reader : Reader) (enough : 4 * reader.size + 4 ≤ fuel) :
    (readFlowPart fuel closing).Stays reader
  flowValue (closing : TokenKind) (reader : Reader) (enough : 4 * reader.size + 1 ≤ fuel) :
    (readFlowValue fuel closing).Stays reader

namespace GrammarEnds

open Read

variable {fuel : Nat}

theorem node_succ (ends : GrammarEnds fuel) (position : Position) (reader : Reader)
    (enough : 4 * reader.size + 3 ≤ fuel + 1) :
    (readNode (fuel + 1) position).Advances reader := by
  unfold readNode
  refine ends_nextToken.bind ?_
  rintro _ _ ⟨rfl, rfl⟩
  split
  next equal => exact resolveAlias_advances _ (by simp [equal])
  next =>
    refine ends_readProperties.bind fun properties later ⟨le, passed⟩ => ?_
    refine (ends_tagText _ _).bind ?_
    rintro uri _ rfl
    refine ends_nextToken.discard.bind ?_
    rintro _ _ ⟨_, -, rfl⟩
    refine (ends_announce _ _).bind fun _ announced same => ?_
    refine (ends.content position _ properties uri announced (by omega)).bind
      fun node read ⟨stays, advances⟩ => ?_
    refine (ends_fulfil _ node).mono fun _ fulfilled sameToo => ?_
    cases equal : properties.isEmpty with
    | false => have := passed equal; omega
    | true => have := advances equal; omega

theorem content_succ (ends : GrammarEnds fuel) (position : Position) (first : Token)
    (properties : Properties) (uri : Option String) (reader : Reader)
    (enough : 4 * reader.size + 2 ≤ fuel + 1) :
    (readContent (fuel + 1) position first properties uri).Ends reader fun _ later =>
      later.size ≤ reader.size ∧ (properties.isEmpty → later.size < reader.size) := by
  unfold readContent
  refine ends_newNumber.bind fun number _ same => ?_
  dsimp only
  refine ends_nextKind.bind ?_
  rintro kind numbered ⟨equal, rfl⟩
  split
  · refine (passToken_advances (by simp [← equal])).bind fun _ passed advances => .pure ?_
    omega
  · refine (passToken_advances (by simp [← equal])).bind fun _ passed advances => ?_
    refine (ends.flowItems [] passed (by omega)).bind fun items later stays => .pure ?_
    omega
  · refine (passToken_advances (by simp [← equal])).bind fun _ passed advances => ?_
    refine (ends.flowEntries [] passed (by omega)).bind fun entries later stays => .pure ?_
    omega
  · split
    next isEntry =>
      have atEntry : numbered.next.kind = .blockEntry := equal ▸ kind_eq_of_and isEntry
      refine (ends.items false [] numbered (by omega)).bind
        fun items later ⟨_, advances⟩ => .pure ?_
      have := advances atEntry
      omega
    next =>
    split
    next isStart =>
      have atStart : numbered.next.kind = .blockSequenceStart := equal ▸ kind_eq_of_and isStart
      refine (passToken_advances (by simp [atStart])).bind fun _ passed advances => ?_
      refine (ends.items true [] passed (by omega)).bind fun items later ⟨stays, _⟩ => ?_
      refine (expect_advances (by decide) _).bind fun _ closed advancesToo => .pure ?_
      omega
    next =>
    split
    next isStart =>
      have atStart : numbered.next.kind = .blockMappingStart := equal ▸ kind_eq_of_and isStart
      refine (passToken_advances (by simp [atStart])).bind fun _ passed advances => ?_
      refine (ends.entries [] passed (by omega)).bind fun entries later stays => ?_
      refine (expect_advances (by decide) _).bind fun _ closed advancesToo => .pure ?_
      omega
    next =>
    split
    · exact ends_refuse _
    next isEmpty => exact .pure ⟨by omega, fun empty => absurd empty isEmpty⟩

theorem items_succ (ends : GrammarEnds fuel) (indented : Bool) (done : List Node) (reader : Reader)
    (enough : 4 * reader.size + 1 ≤ fuel + 1) :
    (readItems (fuel + 1) indented done).Ends reader fun _ later =>
      later.size ≤ reader.size ∧
        (reader.next.kind = .blockEntry → later.size < reader.size) := by
  unfold readItems
  refine ends_nextKind.bind ?_
  rintro _ _ ⟨rfl, rfl⟩
  split
  next isEntry =>
    have atEntry := eq_of_beq isEntry
    refine (passToken_advances (by simp [atEntry])).bind fun _ passed advances => ?_
    refine ends_nextKind.bind ?_
    rintro _ _ ⟨rfl, rfl⟩
    split
    · refine ends_emptyScalar.bind ?_
      rintro empty _ rfl
      refine (ends.items indented _ _ (by omega)).mono fun _ later ⟨stays, _⟩ => ?_
      omega
    · refine (ends.node .block _ (by omega)).bind fun node read advancesToo => ?_
      refine (ends.items indented _ _ (by omega)).mono fun _ later ⟨stays, _⟩ => ?_
      omega
  next noEntry =>
    exact .pure ⟨Nat.le_refl _, fun atEntry => absurd (by simp [atEntry]) noEntry⟩

theorem entries_succ (ends : GrammarEnds fuel) (done : List (Node × Node)) (reader : Reader)
    (enough : 4 * reader.size + 1 ≤ fuel + 1) : (readEntries (fuel + 1) done).Stays reader := by
  unfold readEntries
  refine ends_nextKind.bind ?_
  rintro _ _ ⟨rfl, rfl⟩
  split
  next isKey =>
    refine (passToken_advances (by simp [eq_of_beq isKey])).bind fun _ passed advances => ?_
    refine (ends.blockPart passed (by omega)).bind fun key keyRead stays => ?_
    refine (ends.blockValue keyRead (by omega)).bind fun value valueRead staysToo => ?_
    exact (ends.entries _ valueRead (by omega)).mono fun _ later _ => by omega
  next => exact .pure (Nat.le_refl _)

theorem blockValue_succ (ends : GrammarEnds fuel) (reader : Reader)
    (enough : 4 * reader.size + 1 ≤ fuel + 1) : (readBlockValue (fuel + 1)).Stays reader := by
  unfold readBlockValue
  refine ends_nextKind.bind ?_
  rintro _ _ ⟨rfl, rfl⟩
  split
  next isValue =>
    refine (passToken_advances (by simp [eq_of_beq isValue])).bind fun _ passed advances => ?_
    exact (ends.blockPart passed (by omega)).mono fun _ later _ => by omega
  next => exact emptyScalar_stays

theorem blockPart_succ (ends : GrammarEnds fuel) (reader : Reader)
    (enough : 4 * reader.size + 4 ≤ fuel + 1) : (readBlockPart (fuel + 1)).Stays reader := by
  unfold readBlockPart
  refine ends_nextKind.bind ?_
  rintro _ _ ⟨rfl, rfl⟩
  split
  · exact emptyScalar_stays
  · exact (ends.node .blockEntry _ (by omega)).mono fun _ _ => Nat.le_of_lt

theorem flowItems_succ (ends : GrammarEnds fuel) (done : List Node) (reader : Reader)
    (enough : 4 * reader.size + 4 ≤ fuel + 1) : (readFlowItems (fuel + 1) done).Stays reader := by
  unfold readFlowItems
  refine ends_nextKind.bind ?_
  rintro _ _ ⟨rfl, rfl⟩
  split
  next isEnd =>
    refine (passToken_advances (by simp [eq_of_beq isEnd])).bind fun _ passed advances => .pure ?_
    omega
  next =>
  refine (expectComma_stays _).bind fun _ _ stays => ?_
  refine ends_nextToken.bind ?_
  rintro _ behind ⟨rfl, rfl⟩
  split
  next isKey =>
    refine (passToken_advances (by simp [eq_of_beq isKey])).bind fun _ passed advances => ?_
    refine (ends.flowPart _ passed (by omega)).bind fun key keyRead staysAtKey => ?_
    refine (ends.flowValue _ keyRead (by omega)).bind fun value valueRead staysAtValue => ?_
    refine ends_newNumber.bind fun number numbered same => ?_
    exact (ends.flowItems _ numbered (by omega)).mono fun _ later _ => by omega
  next =>
  split
  next isEnd =>
    refine (passToken_advances (by simp [eq_of_beq isEnd])).bind fun _ passed advances => .pure ?_
    omega
  next =>
    refine (ends.node .flow behind (by omega)).bind fun node read advances => ?_
    exact (ends.flowItems _ read (by omega)).mono fun _ later _ => by omega

theorem flowEntries_succ (ends : GrammarEnds fuel) (done : List (Node × Node)) (reader : Reader)
    (enough : 4 * reader.size + 4 ≤ fuel + 1) :
    (readFlowEntries (fuel + 1) done).Stays reader := by
  unfold readFlowEntries
  refine ends_nextKind.bind ?_
  rintro _ _ ⟨rfl, rfl⟩
  split
  next isEnd =>
    refine (passToken_advances (by simp [eq_of_beq isEnd])).bind fun _ passed advances => .pure ?_
    omega
  next =>
  refine (expectComma_stays _).bind fun _ _ stays => ?_
  refine ends_nextKind.bind ?_
  rintro kind behind ⟨equal, rfl⟩
  split
  · refine (passToken_advances (by simp [← equal])).bind fun _ passed advances => ?_
    refine (ends.flowPart _ passed (by omega)).bind fun key keyRead staysAtKey => ?_
    refine (ends.flowValue _ keyRead (by omega)).bind fun value valueRead staysAtValue => ?_
    exact (ends.flowEntries _ valueRead (by omega)).mono fun _ later _ => by omega
  · refine (passToken_advances (by simp [← equal])).bind fun _ passed advances => .pure ?_
    omega
  · refine (ends.node .flow _ (by omega)).bind fun key read advances => ?_
    refine emptyScalar_stays.bind fun value valueRead staysToo => ?_
    exact (ends.flowEntries _ valueRead (by omega)).mono fun _ later _ => by omega

theorem flowPart_succ (ends : GrammarEnds fuel) (closing : TokenKind) (reader : Reader)
    (enough : 4 * reader.size + 4 ≤ fuel + 1) :
    (readFlowPart (fuel + 1) closing).Stays reader := by
  unfold readFlowPart
  refine ends_nextKind.bind ?_
  rintro _ _ ⟨rfl, rfl⟩
  split
  · exact emptyScalar_stays
  · exact (ends.node .flow _ (by omega)).mono fun _ _ => Nat.le_of_lt

theorem flowValue_succ (ends : GrammarEnds fuel) (closing : TokenKind) (reader : Reader)
    (enough : 4 * reader.size + 1 ≤ fuel + 1) :
    (readFlowValue (fuel + 1) closing).Stays reader := by
  unfold readFlowValue
  refine ends_nextKind.bind ?_
  rintro _ _ ⟨rfl, rfl⟩
  split
  next isValue =>
    refine (passToken_advances (by simp [eq_of_beq isValue])).bind fun _ passed advances => ?_
    refine ends_nextKind.bind ?_
    rintro _ _ ⟨rfl, rfl⟩
    split
    · exact emptyScalar_stays.mono fun _ later _ => by omega
    · exact (ends.node .flow _ (by omega)).mono fun _ later _ => by omega
  next => exact emptyScalar_stays

end GrammarEnds

/-- Every function of the grammar ends with enough fuel: by induction on the fuel, one case for each
function. -/
theorem grammarEnds (fuel : Nat) : GrammarEnds fuel := by
  induction fuel with
  | zero => constructor <;> intros <;> omega
  | succ fuel ends =>
      exact {
        node := ends.node_succ
        content := ends.content_succ
        items := ends.items_succ
        entries := ends.entries_succ
        blockValue := ends.blockValue_succ
        blockPart := ends.blockPart_succ
        flowItems := ends.flowItems_succ
        flowEntries := ends.flowEntries_succ
        flowPart := ends.flowPart_succ
        flowValue := ends.flowValue_succ }

/-! ### Documents -/

section Documents

open Read

variable {fuel : Nat}

theorem readDirectives_stays (versioned : Bool) (handles : List (String × String))
    (enough : reader.size < fuel) : (readDirectives fuel versioned handles).Stays reader := by
  induction fuel generalizing versioned handles reader with
  | zero => omega
  | succ fuel ih =>
      unfold readDirectives
      refine ends_nextKind.bind ?_
      rintro kind _ ⟨equal, rfl⟩
      split
      · split
        · exact ends_refuse _
        split
        · exact ends_refuse _
        refine (passToken_advances (by simp [← equal])).bind fun _ passed advances => ?_
        exact (ih _ _ (by omega)).mono fun _ later _ => by omega
      · split
        · exact ends_refuse _
        refine (passToken_advances (by simp [← equal])).bind fun _ passed advances => ?_
        exact (ih _ _ (by omega)).mono fun _ later _ => by omega
      · refine (passToken_advances (by simp [← equal])).bind fun _ passed advances => ?_
        exact (ih _ _ (by omega)).mono fun _ later _ => by omega
      · exact .pure (Nat.le_refl _)

theorem skipDocumentEnds_stays (enough : reader.size < fuel) :
    (skipDocumentEnds fuel).Stays reader := by
  induction fuel generalizing reader with
  | zero => omega
  | succ fuel ih =>
      unfold skipDocumentEnds
      refine ends_nextKind.bind ?_
      rintro _ _ ⟨rfl, rfl⟩
      split
      next isEnd =>
        refine (passToken_advances (by simp [eq_of_beq isEnd])).bind fun _ passed advances => ?_
        exact (ih (by omega)).mono fun _ later _ => by omega
      next => exact .pure (Nat.le_refl _)

theorem readDocumentContent_stays (enough : 4 * reader.size + 3 ≤ fuel) :
    (readDocumentContent fuel).Stays reader := by
  refine ends_nextKind.bind ?_
  rintro _ _ ⟨rfl, rfl⟩
  split
  case h_7 => exact ((grammarEnds fuel).node _ _ enough).mono fun _ _ => Nat.le_of_lt
  all_goals exact emptyScalar_stays

theorem readMarkedDocument_stays (enough : 4 * reader.size + 3 ≤ fuel) :
    (readMarkedDocument fuel).Stays reader := by
  refine (skipDocumentEnds_stays (by omega)).bind fun _ skipped stays => ?_
  refine ends_nextKind.bind ?_
  rintro _ _ ⟨rfl, rfl⟩
  split
  · exact .pure stays
  refine (readDirectives_stays _ _ (by omega)).bind fun handles directed staysToo => ?_
  refine (ends_modify _).bind ?_
  rintro _ _ rfl
  refine (expect_advances (by decide) _).bind fun _ started advances => ?_
  have started_le : started.size ≤ reader.size := by
    simp only [Reader.size] at *
    omega
  refine (readDocumentContent_stays (by omega)).bind fun root read staysBehind => .pure ?_
  omega

theorem readFirstDocument_stays (enough : 4 * reader.size + 3 ≤ fuel) :
    (readFirstDocument fuel).Stays reader := by
  refine ends_nextKind.bind ?_
  rintro _ _ ⟨rfl, rfl⟩
  split
  case h_6 =>
    refine ((grammarEnds fuel).node _ _ enough).bind fun root read advances => .pure ?_
    exact Nat.le_of_lt advances
  all_goals exact readMarkedDocument_stays enough

theorem ends_refuseDocument (enough : reader.size < fuel) {good : α → Reader → Prop} :
    (refuseDocument fuel).Ends reader good := by
  refine (readDirectives_stays _ _ enough).discard.bind fun _ _ _ => ?_
  exact (expect_advances (by decide) _).bind fun _ _ _ => .throw _

theorem readOnlyDocument_stays (enough : 4 * reader.size + 3 ≤ fuel) :
    (readOnlyDocument fuel).Stays reader := by
  refine (readFirstDocument_stays enough).bind fun root _ stays => ?_
  refine (skipDocumentEnds_stays (by omega)).bind fun _ _ staysToo => ?_
  refine ends_nextKind.bind ?_
  rintro _ later ⟨rfl, rfl⟩
  split
  · exact .pure (by omega)
  · exact ends_refuseDocument (by omega)

end Documents

def Reader.start (tokens : Tokens) : Reader :=
  ⟨tokens.list, tokens.fault, standardHandles, [], 0, 0⟩

/-- The fuel for a document: four calls for each token and three more. -/
def Tokens.fuel (tokens : Tokens) : Nat := 4 * tokens.list.length + 3

theorem readOnlyDocument_isSome (tokens : Tokens) :
    ((readOnlyDocument tokens.fuel).run (Reader.start tokens)).run.isSome := by
  have stays : (readOnlyDocument tokens.fuel).Stays (Reader.start tokens) :=
    readOnlyDocument_stays (Nat.le_refl _)
  obtain ⟨outcome, runs, -⟩ := stays
  exact Option.isSome_of_eq_some runs

/-- The root of the only document of a text, if there is one. -/
def documentOf (tokens : Tokens) : Except LoadFault (Option Node) :=
  Prod.fst <$> Option.get _ (readOnlyDocument_isSome tokens)

end EntityDiagram.Yaml
