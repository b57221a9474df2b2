import EntityDiagram.Diagram.Reserved
import Mathlib.Data.List.Basic

/-!
# Identifiers in a text

A text is cut in one way only by a character that the part before it does not have.  Any character
that is not part of an identifier cuts a text in this way into identifiers, so what is escaped
before it and behind it does not depend on each other.
-/

namespace EntityDiagram

/-- Parts of one class before the first item outside of it are the same, and so is what follows. -/
theorem append_cons_inj_of_all {α : Type} {among : α → Bool} {front other rest tail : List α}
    {stop otherStop : α} (frontAmong : ∀ item ∈ front, among item = true)
    (otherAmong : ∀ item ∈ other, among item = true) (stops : among stop = false)
    (otherStops : among otherStop = false)
    (same : front ++ stop :: rest = other ++ otherStop :: tail) :
    front = other ∧ stop = otherStop ∧ rest = tail := by
  have fronts : front = other := by
    have taken := congrArg (List.takeWhile among) same
    rwa [List.takeWhile_append_of_pos frontAmong, List.takeWhile_append_of_pos otherAmong,
      List.takeWhile_cons_of_neg (by simp [stops]),
      List.takeWhile_cons_of_neg (by simp [otherStops]),
      List.append_nil, List.append_nil] at taken
  subst fronts
  exact ⟨rfl, List.cons.inj (List.append_cancel_left same)⟩

/-! ### Escaping -/

theorem escapeWords_append_cons {c : CodePoint} (cuts : Text.isIdentifier c = false)
    (word text rest : Text) :
    escapeWords word (text ++ c :: rest) = escapeWords word text ++ c :: escapeReserved rest := by
  induction text generalizing word with
  | nil => simp [escapeWords, cuts, escapeReserved]
  | cons d text ih =>
      rw [List.cons_append, escapeWords, escapeWords]
      split
      · exact ih (d :: word)
      · rw [ih [], List.append_assoc, List.cons_append]

/-- What stands on the two sides of a character that is not in an identifier is escaped apart. -/
theorem escapeReserved_append_cons {c : CodePoint} (cuts : Text.isIdentifier c = false)
    (text rest : Text) :
    escapeReserved (text ++ c :: rest) = escapeReserved text ++ c :: escapeReserved rest :=
  escapeWords_append_cons cuts [] text rest

theorem escapeWords_identifier {text : Text} (identifier : ∀ c ∈ text, Text.isIdentifier c = true)
    (word : Text) : escapeWords word text = escapeWord (word.reverse ++ text) := by
  induction text generalizing word with
  | nil => rw [escapeWords, List.append_nil]
  | cons c text ih =>
      obtain ⟨first, rest⟩ := List.forall_mem_cons.mp identifier
      rw [escapeWords, if_pos first, ih rest, List.reverse_cons, List.append_assoc,
        List.singleton_append]

theorem escapeReserved_identifier {text : Text}
    (identifier : ∀ c ∈ text, Text.isIdentifier c = true) :
    escapeReserved text = escapeWord text :=
  escapeWords_identifier identifier []

/-- The only identifier that is changed is the reserved word. -/
theorem escapeReserved_of_identifier {text : Text}
    (identifier : ∀ c ∈ text, Text.isIdentifier c = true) :
    escapeReserved text = if text = "label" then Text.ofString "_label" else text := by
  rw [escapeReserved_identifier identifier, escapeWord]
  by_cases reserved : text = "label"
  · subst reserved
    decide
  · simp [reservedWords, reserved]

theorem isIdentifier_escapeReserved {text : Text}
    (identifier : ∀ c ∈ text, Text.isIdentifier c = true) :
    ∀ c ∈ escapeReserved text, Text.isIdentifier c = true := by
  rw [escapeReserved_of_identifier identifier]
  split
  · decide
  · exact identifier

/-- Two identifiers are escaped to the same one only if one of them is the reserved word and the
other looks escaped. -/
theorem escapeReserved_eq_iff {text other : Text}
    (identifier : ∀ c ∈ text, Text.isIdentifier c = true)
    (otherIdentifier : ∀ c ∈ other, Text.isIdentifier c = true) :
    escapeReserved text = escapeReserved other ↔
      text = other ∨ text = "label" ∧ other = "_label" ∨ text = "_label" ∧ other = "label" := by
  rw [escapeReserved_of_identifier identifier, escapeReserved_of_identifier otherIdentifier]
  constructor
  · intro same
    split at same <;> split at same
    · next reserved otherReserved => exact .inl (reserved.trans otherReserved.symm)
    · next reserved _ => exact .inr (.inl ⟨reserved, same.symm⟩)
    · next _ otherReserved => exact .inr (.inr ⟨same, otherReserved⟩)
    · exact .inl same
  · rintro (rfl | ⟨rfl, rfl⟩ | ⟨rfl, rfl⟩)
    · rfl
    · decide
    · decide

@[simp]
theorem escapeReserved_nil : escapeReserved [] = [] :=
  rfl

namespace Text

/-- Whether no identifier goes on behind the end of a text. -/
def isClosed (text : Text) : Bool :=
  text.getLast?.all fun c => !isIdentifier c

/-- Whether a text cuts what it stands between, and has no reserved word itself. -/
def isDelimiter (text : Text) : Bool :=
  text.head?.any (fun c => !isIdentifier c) && text.isClosed && escapeReserved text == text

theorem isClosed_append {front rest : Text} (nonempty : rest ≠ []) (closed : rest.isClosed = true) :
    (front ++ rest).isClosed = true := by
  rcases List.eq_nil_or_concat' rest with rfl | ⟨rest, c, rfl⟩
  · exact (nonempty rfl).elim
  · rw [← List.append_assoc]
    simpa [isClosed] using closed

theorem isClosed_append_delimiter (front : Text) {delimiter : Text}
    (delimits : delimiter.isDelimiter = true) : (front ++ delimiter).isClosed = true := by
  simp only [isDelimiter, Bool.and_eq_true] at delimits
  refine isClosed_append ?_ delimits.1.2
  rintro rfl
  exact absurd delimits.1.1 (by simp)

theorem joinWith_cons (separator text : Text) (texts : List Text) :
    joinWith separator (text :: texts) = text ++ texts.flatMap (separator ++ ·) := by
  induction texts generalizing text with
  | nil => simp [joinWith]
  | cons next texts ih =>
      simp only [joinWith] at ih ⊢
      rw [List.intercalate_cons_cons, ih, List.flatMap_cons, List.append_assoc, List.append_assoc]

theorem isClosed_joinWith {separator : Text} (separates : separator.isDelimiter = true)
    {texts : List Text} (closed : ∀ text ∈ texts, text.isClosed = true) :
    (joinWith separator texts).isClosed = true := by
  induction texts with
  | nil => rfl
  | cons text texts ih =>
      obtain ⟨first, rest⟩ := List.forall_mem_cons.mp closed
      cases texts with
      | nil => simpa [joinWith] using first
      | cons next texts =>
          rw [joinWith, List.intercalate_cons_cons]
          by_cases empty : separator.intercalate (next :: texts) = []
          · rw [empty, List.append_nil]
            exact isClosed_append_delimiter text separates
          · exact isClosed_append empty (ih rest)

end Text

theorem escapeReserved_append {front : Text} (closed : front.isClosed = true) (rest : Text) :
    escapeReserved (front ++ rest) = escapeReserved front ++ escapeReserved rest := by
  rcases List.eq_nil_or_concat' front with rfl | ⟨front, c, rfl⟩
  · rfl
  · have cuts : Text.isIdentifier c = false := by
      simpa [Text.isClosed] using closed
    rw [List.append_assoc, List.singleton_append, escapeReserved_append_cons cuts,
      escapeReserved_append_cons cuts, List.append_assoc]
    rfl

theorem escapeReserved_delimiter {delimiter : Text} (delimits : delimiter.isDelimiter = true)
    (front rest : Text) :
    escapeReserved (front ++ (delimiter ++ rest)) =
      escapeReserved front ++ (delimiter ++ escapeReserved rest) := by
  simp only [Text.isDelimiter, Bool.and_eq_true, beq_iff_eq] at delimits
  obtain ⟨⟨starts, closed⟩, kept⟩ := delimits
  cases delimiter with
  | nil => simp at starts
  | cons c delimiter =>
      have cuts : Text.isIdentifier c = false := by
        simpa using starts
      have behind : escapeReserved (c :: delimiter ++ rest) =
          c :: delimiter ++ escapeReserved rest := by
        rw [escapeReserved_append closed, kept]
      have alone := escapeReserved_append_cons cuts [] (delimiter ++ rest)
      rw [List.cons_append, escapeReserved_append_cons cuts, ← behind]
      exact congrArg (escapeReserved front ++ ·) alone.symm

theorem escapeReserved_delimiter_end {delimiter : Text} (delimits : delimiter.isDelimiter = true)
    (front : Text) : escapeReserved (front ++ delimiter) = escapeReserved front ++ delimiter := by
  have followed := escapeReserved_delimiter delimits front []
  rwa [escapeReserved_nil, List.append_nil] at followed

/-- Closed texts in a row are escaped one by one. -/
theorem escapeReserved_join {texts : List Text} (closed : ∀ text ∈ texts, text.isClosed = true) :
    escapeReserved (Text.join texts) = Text.join (texts.map escapeReserved) := by
  induction texts with
  | nil => rfl
  | cons text texts ih =>
      obtain ⟨first, rest⟩ := List.forall_mem_cons.mp closed
      simp only [Text.join, List.flatten_cons, List.map_cons] at ih ⊢
      rw [escapeReserved_append first, ih rest]

theorem escapeReserved_joinWith {separator : Text} (delimits : separator.isDelimiter = true)
    (texts : List Text) :
    escapeReserved (Text.joinWith separator texts) =
      Text.joinWith separator (texts.map escapeReserved) := by
  induction texts with
  | nil => rfl
  | cons text texts ih =>
      cases texts with
      | nil => simp [Text.joinWith]
      | cons next texts =>
          simp only [Text.joinWith, List.map_cons, List.intercalate_cons_cons,
            List.append_assoc] at ih ⊢
          rw [escapeReserved_delimiter delimits, ih]

end EntityDiagram
