import EntityDiagram.Proofs.Text.Identifier
import Mathlib.Data.List.SplitBy

/-!
# Reserved words among the tokens of a text

A text is cut into tokens in one way: identifiers that are as long as they can be, and the single
characters between them.  Escaping replaces each token that is the reserved word and keeps all
others, and it is also what a search from left to right does that marks the word wherever no
identifier character stands before it or behind it.  The main statement is
`escapeReserved_replaces_tokens`.
-/

namespace EntityDiagram

namespace Text

/-- Whether no identifier goes on into a text. -/
def startsOutside (text : Text) : Bool :=
  !text.head?.any isIdentifier

theorem startsOutside_cons_iff {c : CodePoint} {rest : Text} :
    startsOutside (c :: rest) = true ↔ isIdentifier c = false := by
  simp [startsOutside]

/-- A cut of a text into tokens.  An identifier ends where the next character is not one of its
class, so no two identifiers stand side by side. -/
inductive Cut : Text → List Text → Prop
  | nil : Cut [] []
  | mark {c : CodePoint} {rest : Text} {tokens : List Text}
      (outside : isIdentifier c = false) (behind : Cut rest tokens) :
      Cut (c :: rest) ([c] :: tokens)
  | identifier {word rest : Text} {tokens : List Text}
      (nonempty : word ≠ []) (within : ∀ c ∈ word, isIdentifier c = true)
      (maximal : rest.startsOutside = true) (behind : Cut rest tokens) :
      Cut (word ++ rest) (word :: tokens)

/-- The tokens of a text: neighbours stay together when both of them are identifier characters. -/
def tokens (text : Text) : List Text :=
  text.splitBy fun c next => isIdentifier c && isIdentifier next

/-- A token in which the reserved word is replaced. -/
def unreserved (token : Text) : Text :=
  if token = "label" then "_label" else token

/-! ### Cuts -/

theorem exists_cut (text : Text) : ∃ tokens, Cut text tokens := by
  induction text with
  | nil => exact ⟨[], .nil⟩
  | cons c text ih =>
      obtain ⟨tokens, cut⟩ := ih
      cases inClass : isIdentifier c with
      | false => exact ⟨[c] :: tokens, .mark inClass cut⟩
      | true =>
          have within : ∀ d ∈ [c], isIdentifier d = true := by simpa using inClass
          cases cut with
          | nil => exact ⟨[[c]], .identifier (List.cons_ne_nil _ _) within rfl .nil⟩
          | mark outside behind =>
              exact ⟨[c] :: _, .identifier (List.cons_ne_nil _ _) within
                (startsOutside_cons_iff.mpr outside) (.mark outside behind)⟩
          | @identifier word rest tokens _ wordWithin maximal behind =>
              refine ⟨(c :: word) :: tokens, ?_⟩
              exact .identifier (List.cons_ne_nil _ _)
                (List.forall_mem_cons.mpr ⟨inClass, wordWithin⟩) maximal behind

/-- There is one cut only. -/
theorem Cut.tokens_eq {text : Text} {parts : List Text} (cut : Cut text parts) :
    text.tokens = parts := by
  unfold tokens
  induction cut with
  | nil => rfl
  | @mark c rest parts outside behind ih =>
      have apart : ∀ last ∈ [c].getLast?, ∀ next ∈ rest.head?,
          (isIdentifier last && isIdentifier next) = false := by
        simp [outside]
      rw [← List.singleton_append, List.splitBy_append apart, ih,
        List.splitBy_of_isChain (List.cons_ne_nil _ _) (List.isChain_singleton _),
        List.singleton_append]
  | @identifier word rest parts nonempty within maximal behind ih =>
      have apart : ∀ last ∈ word.getLast?, ∀ next ∈ rest.head?,
          (isIdentifier last && isIdentifier next) = false := by
        intro last _ next first
        obtain ⟨tail, rfl⟩ := List.head?_eq_some_iff.mp first
        rw [startsOutside_cons_iff.mp maximal, Bool.and_false]
      have together : word.IsChain fun c next => (isIdentifier c && isIdentifier next) = true := by
        refine (List.pairwise_iff_forall_sublist.mpr fun {c next} pair => ?_).isChain
        simp [within c (pair.subset (by simp)), within next (pair.subset (by simp))]
      rw [List.splitBy_append apart, ih, List.splitBy_of_isChain nonempty together,
        List.singleton_append]

theorem cut_tokens (text : Text) : Cut text text.tokens := by
  obtain ⟨parts, cut⟩ := exists_cut text
  rwa [cut.tokens_eq]

theorem cut_iff {text : Text} {parts : List Text} : Cut text parts ↔ parts = text.tokens := by
  constructor
  · exact fun cut => cut.tokens_eq.symm
  · rintro rfl
    exact cut_tokens text

/-! ### Replacing tokens -/

theorem unreserved_single (c : CodePoint) : unreserved [c] = [c] := by
  have longer : [c] ≠ ofString "label" := by
    intro same
    have lengths : 1 = (ofString "label").length := congrArg List.length same
    exact absurd lengths (by decide)
  rw [unreserved, if_neg longer]

theorem unreserved_identifier {word : Text} (nonempty : word ≠ [])
    (within : ∀ c ∈ word, isIdentifier c = true) :
    unreserved word ≠ [] ∧ ∀ c ∈ unreserved word, isIdentifier c = true := by
  unfold unreserved
  split
  · decide
  · exact ⟨nonempty, within⟩

theorem unreserved_ne_label (token : Text) : unreserved token ≠ "label" := by
  unfold unreserved
  split
  · decide
  · next different => exact different

theorem unreserved_of_ne {token : Text} (different : token ≠ "label") : unreserved token = token :=
  if_neg different

/-- Replaced tokens are the tokens of the text that they make. -/
theorem Cut.map_unreserved {text : Text} {parts : List Text} (cut : Cut text parts) :
    Cut (join (parts.map unreserved)) (parts.map unreserved) ∧
      (text.startsOutside = true → (join (parts.map unreserved)).startsOutside = true) := by
  induction cut with
  | nil => exact ⟨.nil, id⟩
  | @mark c rest parts outside behind ih =>
      rw [List.map_cons, unreserved_single]
      exact ⟨.mark outside ih.1, fun _ => startsOutside_cons_iff.mpr outside⟩
  | @identifier word rest parts nonempty within maximal behind ih =>
      obtain ⟨newNonempty, newWithin⟩ := unreserved_identifier nonempty within
      refine ⟨.identifier newNonempty newWithin (ih.2 maximal) ih.1, fun starts => ?_⟩
      obtain ⟨c, tail, rfl⟩ := List.exists_cons_of_ne_nil nonempty
      have outside : isIdentifier c = false := startsOutside_cons_iff.mp starts
      rw [within c List.mem_cons_self] at outside
      cases outside

/-- A rewriting that goes token by token is known from what it makes of the first token. -/
theorem Cut.rewrite_eq {rewrite : Text → Text} (empty : rewrite [] = [])
    (mark : ∀ c rest, isIdentifier c = false → rewrite (c :: rest) = c :: rewrite rest)
    (identifier : ∀ word rest : Text, word ≠ [] → (∀ c ∈ word, isIdentifier c = true) →
      rest.startsOutside = true → rewrite (word ++ rest) = unreserved word ++ rewrite rest)
    {text : Text} {parts : List Text} (cut : Cut text parts) :
    rewrite text = join (parts.map unreserved) := by
  induction cut with
  | nil => exact empty
  | @mark c rest parts outside behind ih =>
      rw [mark c rest outside, ih, List.map_cons, unreserved_single]
      rfl
  | @identifier word rest parts nonempty within maximal behind ih =>
      rw [identifier word rest nonempty within maximal, ih]
      rfl

theorem escapeReserved_identifier_append {word rest : Text}
    (within : ∀ c ∈ word, isIdentifier c = true) (maximal : rest.startsOutside = true) :
    escapeReserved (word ++ rest) = unreserved word ++ escapeReserved rest := by
  have escaped : escapeReserved word = unreserved word := escapeReserved_of_identifier within
  cases rest with
  | nil => rw [List.append_nil, escaped, escapeReserved_nil, List.append_nil]
  | cons c rest =>
      have cuts : isIdentifier c = false := startsOutside_cons_iff.mp maximal
      have alone := escapeReserved_append_cons cuts [] rest
      rw [escapeReserved_nil, List.nil_append, List.nil_append] at alone
      rw [escapeReserved_append_cons cuts, escaped, alone]

theorem escapeReserved_eq_join (text : Text) :
    escapeReserved text = join (text.tokens.map unreserved) :=
  (cut_tokens text).rewrite_eq rfl (fun _ rest cuts => escapeReserved_append_cons cuts [] rest)
    fun _ _ _ within maximal => escapeReserved_identifier_append within maximal

/-! ### Searching from left to right -/

/-- Whether a text starts with a word that no identifier character stands before or behind. -/
def standsAlone (before : Option CodePoint) (text word : Text) : Bool :=
  !before.any isIdentifier && word.isPrefixOf text && startsOutside (text.drop word.length)

/-- Marks reserved words from left to right and goes on behind each of them; `before` is the
character in front of the text. -/
def markReserved (before : Option CodePoint) (text : Text) : Text :=
  match text with
  | [] => []
  | c :: rest =>
      match reservedWords.find? (standsAlone before (c :: rest)) with
      | some word =>
          "_" ++ word ++ markReserved word.getLast? (rest.drop (word.length - 1))
      | none => c :: markReserved (some c) rest
termination_by text.length

theorem markReserved_nil (before : Option CodePoint) : markReserved before [] = [] := by
  rw [markReserved]

section

variable {before : Option CodePoint} {c : CodePoint} {word rest : Text}

theorem markReserved_of_not_found
    (notFound : reservedWords.find? (standsAlone before (c :: rest)) = none) :
    markReserved before (c :: rest) = c :: markReserved (some c) rest := by
  rw [markReserved, notFound]

theorem markReserved_of_found
    (found : reservedWords.find? (standsAlone before (word ++ rest)) = some word)
    (nonempty : word ≠ []) :
    markReserved before (word ++ rest) = "_" ++ word ++ markReserved word.getLast? rest := by
  obtain ⟨c, tail, rfl⟩ := List.exists_cons_of_ne_nil nonempty
  rw [List.cons_append] at found ⊢
  rw [markReserved, found]
  simp

theorem not_found_of_mark (outside : isIdentifier c = false) :
    reservedWords.find? (standsAlone before (c :: rest)) = none := by
  have identifiers : ∀ word ∈ reservedWords,
      word ≠ [] ∧ ∀ d ∈ word, isIdentifier d = true := by decide
  refine List.find?_eq_none.mpr fun word member found => ?_
  obtain ⟨nonempty, within⟩ := identifiers word member
  obtain ⟨d, tail, rfl⟩ := List.exists_cons_of_ne_nil nonempty
  have first : d = c := by
    simp only [standsAlone, List.isPrefixOf, Bool.and_eq_true, beq_iff_eq] at found
    exact found.1.2.1
  rw [← first, within d List.mem_cons_self] at outside
  cases outside

theorem not_found_of_inside (inside : isIdentifier c = true) (text : Text) :
    reservedWords.find? (standsAlone (some c) text) = none := by
  refine List.find?_eq_none.mpr fun word _ => ?_
  simp [standsAlone, inside]

theorem takeWhile_append_of_maximal (within : ∀ c ∈ word, isIdentifier c = true)
    (maximal : rest.startsOutside = true) : (word ++ rest).takeWhile isIdentifier = word := by
  rw [List.takeWhile_append_of_pos within]
  cases rest with
  | nil => simp
  | cons c rest => simp [startsOutside_cons_iff.mp maximal]

/-- At an identifier only this identifier can be found. -/
theorem standsAlone_iff (within : ∀ c ∈ word, isIdentifier c = true)
    (maximal : rest.startsOutside = true) (other : Text)
    (otherWithin : ∀ c ∈ other, isIdentifier c = true) :
    standsAlone none (word ++ rest) other = true ↔ word = other := by
  simp only [standsAlone, Option.any_none, Bool.not_false, Bool.true_and, Bool.and_eq_true,
    List.isPrefixOf_iff_prefix]
  constructor
  · rintro ⟨⟨behind, same⟩, ends⟩
    rw [← same, List.drop_left] at ends
    rw [← takeWhile_append_of_maximal within maximal, ← same,
      takeWhile_append_of_maximal otherWithin ends]
  · rintro rfl
    exact ⟨List.prefix_append _ _, by rwa [List.drop_left]⟩

end

/-- Of the character in front only its class counts. -/
theorem markReserved_congr {before other : Option CodePoint}
    (same : before.any isIdentifier = other.any isIdentifier) (text : Text) :
    markReserved before text = markReserved other text := by
  have sameAlone : standsAlone before = standsAlone other := by
    funext text word
    rw [standsAlone, same, standsAlone]
  cases text with
  | nil => rw [markReserved_nil, markReserved_nil]
  | cons c rest => rw [markReserved, sameAlone, markReserved.eq_def other]

/-- A text that starts outside of identifiers can stand behind anything. -/
theorem markReserved_of_startsOutside {text : Text} (starts : text.startsOutside = true)
    (before other : Option CodePoint) : markReserved before text = markReserved other text := by
  cases text with
  | nil => rw [markReserved_nil, markReserved_nil]
  | cons c rest =>
      have outside : isIdentifier c = false := startsOutside_cons_iff.mp starts
      rw [markReserved_of_not_found (not_found_of_mark outside),
        markReserved_of_not_found (not_found_of_mark outside)]

/-- Inside an identifier nothing is marked. -/
theorem markReserved_inside {c : CodePoint} (inside : isIdentifier c = true) {word rest : Text}
    (within : ∀ c ∈ word, isIdentifier c = true) (maximal : rest.startsOutside = true) :
    markReserved (some c) (word ++ rest) = word ++ markReserved none rest := by
  induction word generalizing c with
  | nil => exact markReserved_of_startsOutside maximal (some c) none
  | cons d word ih =>
      obtain ⟨first, others⟩ := List.forall_mem_cons.mp within
      rw [List.cons_append, markReserved_of_not_found (not_found_of_inside inside _),
        ih first others, List.cons_append]

theorem markReserved_mark {c : CodePoint} (outside : isIdentifier c = false) (rest : Text) :
    markReserved none (c :: rest) = c :: markReserved none rest := by
  have sameClass : (some c).any isIdentifier = (none : Option CodePoint).any isIdentifier := by
    simpa using outside
  rw [markReserved_of_not_found (not_found_of_mark outside), markReserved_congr sameClass]

theorem markReserved_identifier {word rest : Text} (nonempty : word ≠ [])
    (within : ∀ c ∈ word, isIdentifier c = true) (maximal : rest.startsOutside = true) :
    markReserved none (word ++ rest) = unreserved word ++ markReserved none rest := by
  have alone := standsAlone_iff within maximal "label" (by decide)
  by_cases reserved : word = "label"
  · have found : reservedWords.find? (standsAlone none (word ++ rest)) = some word := by
      rw [reservedWords, List.find?_cons_of_pos (alone.mpr reserved), reserved]
    rw [markReserved_of_found found nonempty, unreserved, if_pos reserved,
      markReserved_of_startsOutside maximal word.getLast? none, reserved]
    rfl
  · have notFound : reservedWords.find? (standsAlone none (word ++ rest)) = none := by
      rw [reservedWords, List.find?_cons_of_neg fun found => reserved (alone.mp found),
        List.find?_nil]
    -- Behind the first character the search is inside the identifier and marks nothing more of it.
    obtain ⟨c, tail, rfl⟩ := List.exists_cons_of_ne_nil nonempty
    obtain ⟨first, others⟩ := List.forall_mem_cons.mp within
    rw [List.cons_append] at notFound ⊢
    rw [markReserved_of_not_found notFound, markReserved_inside first others maximal,
      unreserved_of_ne reserved, List.cons_append]

/-- A search for reserved words finds those among the tokens. -/
theorem markReserved_eq_join (text : Text) :
    markReserved none text = join (text.tokens.map unreserved) :=
  (cut_tokens text).rewrite_eq (markReserved_nil none)
    (fun _ rest outside => markReserved_mark outside rest)
    fun _ _ nonempty within maximal => markReserved_identifier nonempty within maximal

end Text

open Text (isIdentifier tokens unreserved markReserved Cut join)

/-- Escaping is replacement of tokens.  The tokens of a text are its only cut; each reserved one is
replaced and the new ones are the tokens of the result, none of which is reserved, so that escaping
again changes nothing; what stands on the two sides of a character outside of identifiers is
escaped apart; and a search for the reserved word from left to right comes to the same. -/
theorem escapeReserved_replaces_tokens (text : Text) :
    (∀ parts, Cut text parts ↔ parts = tokens text) ∧
    escapeReserved text = join ((tokens text).map unreserved) ∧
    tokens (escapeReserved text) = (tokens text).map unreserved ∧
    Text.ofString "label" ∉ tokens (escapeReserved text) ∧
    escapeReserved (escapeReserved text) = escapeReserved text ∧
    (∀ front c rest, text = front ++ c :: rest → isIdentifier c = false →
      escapeReserved text = escapeReserved front ++ c :: escapeReserved rest) ∧
    markReserved none text = escapeReserved text := by
  have escaped := Text.escapeReserved_eq_join text
  have newTokens : tokens (escapeReserved text) = (tokens text).map unreserved := by
    rw [escaped]
    exact (Text.cut_tokens text).map_unreserved.1.tokens_eq
  have unreservedTokens : Text.ofString "label" ∉ tokens (escapeReserved text) := by
    rw [newTokens, List.mem_map]
    rintro ⟨token, -, same⟩
    exact Text.unreserved_ne_label token same
  have again : escapeReserved (escapeReserved text) = escapeReserved text := by
    have kept : ∀ token ∈ tokens (escapeReserved text), unreserved token = token :=
      fun token member => Text.unreserved_of_ne fun reserved => unreservedTokens (reserved ▸ member)
    rw [Text.escapeReserved_eq_join, List.map_congr_left kept, List.map_id']
    exact List.flatten_splitBy _ _
  refine ⟨fun parts => Text.cut_iff, escaped, newTokens, unreservedTokens, again, ?_, ?_⟩
  · rintro front c rest rfl cuts
    exact escapeReserved_append_cons cuts front rest
  · rw [Text.markReserved_eq_join, escaped]

end EntityDiagram
