import EntityDiagram.Schema.Violation
import Mathlib.Data.List.Basic

/-!
# Messages of one line

Literals have no line breaks: whatever is not printable is escaped, and everything else in them is
digits and punctuation.  The main statement is `Cause.message_isLine`: what a message says about a
value stands on one line, whatever the value is.
-/

namespace EntityDiagram

/-- A string without line breaks. -/
def IsLine (string : String) : Prop :=
  '\n' ∉ string.toList

instance instDecidablePredIsLine : DecidablePred IsLine :=
  fun string => inferInstanceAs (Decidable ('\n' ∉ string.toList))

namespace IsLine

theorem append {first second : String} (firstLine : IsLine first) (secondLine : IsLine second) :
    IsLine (first ++ second) := by
  rw [IsLine, String.toList_append, List.mem_append]
  rintro (inFirst | inSecond)
  · exact firstLine inFirst
  · exact secondLine inSecond

theorem ite {condition : Prop} [Decidable condition] {first second : String}
    (firstLine : IsLine first) (secondLine : IsLine second) :
    IsLine (if condition then first else second) := by
  split
  · exact firstLine
  · exact secondLine

theorem ofList {characters : List Char} (noBreak : '\n' ∉ characters) :
    IsLine (String.ofList characters) := by
  rw [IsLine, String.toList_ofList]
  exact noBreak

/-- Parts with a comma between them. -/
theorem listed {parts : List String} (lines : ∀ part ∈ parts, IsLine part) :
    IsLine (", ".intercalate parts) := by
  induction parts with
  | nil => decide
  | cons part rest ih =>
      obtain ⟨first, others⟩ := List.forall_mem_cons.mp lines
      cases rest with
      | nil => simpa using first
      | cons next rest =>
          rw [String.intercalate_cons_cons]
          exact (first.append (by decide)).append (ih others)

/-- Parts with a comma between them, in brackets. -/
theorem bracketed {opening closing : String} (openingLine : IsLine opening)
    (closingLine : IsLine closing) {parts : List String} (lines : ∀ part ∈ parts, IsLine part) :
    IsLine (opening ++ ", ".intercalate parts ++ closing) :=
  (openingLine.append (listed lines)).append closingLine

end IsLine

/-! ### Numbers -/

theorem newline_not_mem_toDigits (n : Nat) : '\n' ∉ Nat.toDigits 10 n := by
  intro member
  have isDigit := Nat.isDigit_of_mem_toDigits (by decide) (by decide) member
  cases isDigit

theorem isLine_nat (n : Nat) : IsLine n.repr := by
  rw [IsLine, Nat.toList_repr]
  exact newline_not_mem_toDigits n

theorem isLine_int (n : Int) : IsLine (toString n) := by
  cases n with
  | ofNat n => exact isLine_nat n
  | negSucc n =>
      have minus : IsLine "-" := by decide
      exact minus.append (isLine_nat (n + 1))

theorem newline_not_mem_hexPadded (width n : Nat) : '\n' ∉ Text.hexPadded width n := by
  have digit : ∀ value < 16, Text.hexDigit value ≠ '\n' := by decide
  induction width generalizing n with
  | zero => simp [Text.hexPadded]
  | succ width ih =>
      have last := digit (n % 16) (Nat.mod_lt n (by decide))
      simp [Text.hexPadded, ih, last.symm]

theorem newline_not_mem_positional (keepsPoint : Bool) {digits : List Char}
    (noBreak : '\n' ∉ digits) (leading : Int) :
    '\n' ∉ Decimal.positional keepsPoint digits leading := by
  have taken (count : Nat) : '\n' ∉ digits.take count :=
    fun member => noBreak (List.mem_of_mem_take member)
  have dropped (count : Nat) : '\n' ∉ digits.drop count :=
    fun member => noBreak (List.mem_of_mem_drop member)
  unfold Decimal.positional
  split
  · simp [noBreak]
  · dsimp only
    split
    · cases keepsPoint <;> simp [noBreak]
    · simp [taken, dropped]

theorem newline_not_mem_withPoint {digits : List Char} (noBreak : '\n' ∉ digits) :
    '\n' ∉ Decimal.withPoint digits := by
  match digits with
  | [] | [_] => exact noBreak
  | digit :: next :: more =>
      rw [List.mem_cons, not_or] at noBreak
      simp [Decimal.withPoint, noBreak]

theorem newline_not_mem_exponentText (exponent : Int) :
    '\n' ∉ Decimal.exponentText exponent := by
  have digits := newline_not_mem_toDigits exponent.natAbs
  unfold Decimal.exponentText
  split <;> simp [digits]

theorem newline_not_mem_magnitude (layout : Decimal.Layout) (significand : Nat) (exponent : Int) :
    '\n' ∉ layout.magnitude significand exponent := by
  unfold Decimal.Layout.magnitude
  extract_lets chosen digits leading
  have noBreak : '\n' ∉ digits := newline_not_mem_toDigits chosen.digits
  split
  · exact newline_not_mem_positional layout.keepsPoint noBreak leading
  · rw [List.mem_append, List.mem_cons]
    rintro (inDigits | isMark | inExponent)
    · exact newline_not_mem_withPoint noBreak inDigits
    · cases isMark
    · exact newline_not_mem_exponentText leading inExponent

theorem isLine_render (layout : Decimal.Layout) (x : Decimal.Double) :
    IsLine (layout.render x) := by
  have sign : IsLine (if x.isNegative then "-" else "") := by
    split <;> decide
  unfold Decimal.Layout.render
  dsimp only
  split
  · decide
  · exact sign.append (by decide)
  · exact sign.append (.ofList (newline_not_mem_magnitude layout _ _))

/-! ### Quoted texts -/

theorem newline_not_mem_codeEscape (code : Nat) : '\n' ∉ Text.codeEscape code := by
  unfold Text.codeEscape
  split
  · simp [newline_not_mem_hexPadded]
  · split <;> simp [newline_not_mem_hexPadded]

theorem quoteFor_ne_newline (text : Text) : Text.quoteFor text ≠ '\n' := by
  unfold Text.quoteFor
  split <;> decide

/-- A line break is escaped, and no other character is written as one. -/
theorem newline_not_mem_quotedChar {quote : Char} (quoteVisible : quote ≠ '\n') (c : Char) :
    '\n' ∉ Text.quotedChar quote c := by
  unfold Text.quotedChar
  split
  · next escaped =>
      have different : c ≠ '\n' := by
        rintro rfl
        simp [quoteVisible.symm] at escaped
      simp [different.symm]
  · split
    · decide
    · next notNewline =>
        have different : c ≠ '\n' := by
          simpa using notNewline
        split
        · decide
        · split
          · decide
          · split
            · simp [different.symm]
            · exact newline_not_mem_codeEscape c.toNat

theorem newline_not_mem_quotedCodePoint {quote : Char} (quoteVisible : quote ≠ '\n')
    (c : CodePoint) : '\n' ∉ Text.quotedCodePoint quote c := by
  cases c with
  | char c => exact newline_not_mem_quotedChar quoteVisible c
  | surrogate offset => exact newline_not_mem_codeEscape _

theorem newline_not_mem_quotedByte {quote : Char} (quoteVisible : quote ≠ '\n') (byte : UInt8) :
    '\n' ∉ Text.quotedByte quote byte := by
  unfold Text.quotedByte
  split
  · exact newline_not_mem_quotedChar quoteVisible _
  · exact newline_not_mem_codeEscape _

theorem isLine_quoted (text : Text) : IsLine (Text.quoted text) := by
  have quoteVisible := quoteFor_ne_newline text
  refine .ofList ?_
  simp [quoteVisible.symm, newline_not_mem_quotedCodePoint quoteVisible]

theorem isLine_quotedBytes (bytes : List UInt8) : IsLine (Text.quotedBytes bytes) := by
  have quoteVisible :=
    quoteFor_ne_newline (Text.ofChars (bytes.map fun byte => Char.ofNat byte.toNat))
  refine .ofList ?_
  simp [quoteVisible.symm, newline_not_mem_quotedByte quoteVisible]

/-! ### Dates -/

theorem isLine_durationText (microseconds : Int) : IsLine (durationText microseconds) := by
  have part {name : String} (nameLine : IsLine name) (amount : Int) :
      ∀ text ∈ (if amount == 0 then [] else [name ++ "=" ++ toString amount]), IsLine text := by
    split
    · exact fun _ member => nomatch member
    · exact List.forall_mem_singleton.mpr
        ((nameLine.append (by decide)).append (isLine_int amount))
  unfold durationText
  extract_lets days rest duration parts
  have partsLines : ∀ text ∈ parts, IsLine text := by
    refine List.forall_mem_append.mpr ⟨List.forall_mem_append.mpr ⟨?_, ?_⟩, ?_⟩
    · exact part (by decide) days
    · exact part (by decide) (rest / 1000000)
    · exact part (by decide) (rest % 1000000)
  have body : IsLine (if parts.isEmpty then "0" else ", ".intercalate parts) :=
    .ite (by decide) (.listed partsLines)
  exact (IsLine.append (by decide) body).append (by decide)

theorem Date.isLine_literalParts (date : Date) : ∀ part ∈ date.literalParts, IsLine part := by
  simp [Date.literalParts, isLine_nat]

theorem Date.isLine_literal (date : Date) : IsLine date.literal :=
  .bracketed (by decide) (by decide) date.isLine_literalParts

theorem Moment.isLine_offsetLiteral (minutes : Int) : IsLine (Moment.offsetLiteral minutes) := by
  have duration := isLine_durationText (minutes * minuteLength)
  exact .ite (by decide) ((IsLine.append (by decide) duration).append (by decide))

theorem Moment.isLine_literal (moment : Moment) : IsLine moment.literal := by
  unfold Moment.literal
  extract_lets seconds zone
  have secondsLines : ∀ part ∈ seconds, IsLine part := by
    dsimp only [seconds]
    split
    · simp [isLine_nat]
    · split <;> simp [isLine_nat]
  have zoneLines : ∀ part ∈ zone, IsLine part := by
    dsimp only [zone]
    split
    · exact fun _ member => nomatch member
    · exact List.forall_mem_singleton.mpr
        (IsLine.append (by decide) (isLine_offsetLiteral _))
  refine .bracketed (by decide) (by decide) ?_
  simp only [List.forall_mem_append]
  exact ⟨⟨⟨moment.date.isLine_literalParts, by simp [isLine_nat]⟩, secondsLines⟩, zoneLines⟩

/-! ### Values -/

theorem Scalar.isLine_literal (scalar : Scalar) : IsLine scalar.literal := by
  cases scalar with
  | null => decide
  | bool flag => cases flag <;> decide
  | int n => exact isLine_int n
  | float x => exact isLine_render numberLayout x
  | undefined origin => exact (by decide : IsLine "nan")
  | text text => exact isLine_quoted text
  | date date => exact date.isLine_literal
  | moment moment => exact moment.isLine_literal
  | bytes bytes => exact isLine_quotedBytes bytes

mutual

theorem Value.isLine_literal : ∀ value : Value, IsLine value.literal
  | .scalar atom => by
      rw [literal]
      exact atom.isLine_literal
  | .list items => by
      rw [literal]
      exact .bracketed (by decide) (by decide) (Value.isLine_literals items)
  | .pair first second => by
      rw [literal]
      exact (((IsLine.append (by decide) first.isLine_literal).append (by decide)).append
        second.isLine_literal).append (by decide)
  | .set items => by
      rw [literal]
      refine .ite (by decide) (.bracketed (by decide) (by decide) ?_)
      exact List.forall_mem_map.mpr fun item _ => item.isLine_literal
  | .map entries => by
      rw [literal]
      exact .bracketed (by decide) (by decide) (Value.isLine_entryLiterals entries)

theorem Value.isLine_literals : ∀ items : List Value, ∀ part ∈ literals items, IsLine part
  | [] => fun _ member => nomatch member
  | item :: rest => by
      rw [literals]
      exact List.forall_mem_cons.mpr ⟨item.isLine_literal, Value.isLine_literals rest⟩

theorem Value.isLine_entryLiterals :
    ∀ entries : List (Scalar × Value), ∀ part ∈ entryLiterals entries, IsLine part
  | [] => fun _ member => nomatch member
  | (key, value) :: rest => by
      rw [entryLiterals]
      exact List.forall_mem_cons.mpr
        ⟨(key.isLine_literal.append (by decide)).append value.isLine_literal,
          Value.isLine_entryLiterals rest⟩

end

theorem isLine_quotedList (texts : List Text) : IsLine (quotedList texts) :=
  .listed (List.forall_mem_map.mpr fun text _ => isLine_quoted text)

/-- What is said about a value stands on one line. -/
theorem Cause.message_isLine (cause : Cause) : IsLine cause.message := by
  cases cause with
  | wrongShape value expected =>
      exact (value.isLine_literal.append (by decide)).append (isLine_quotedList _)
  | notKind value =>
      exact ((value.isLine_literal.append (by decide)).append (isLine_quotedList _)).append
        (by decide)
  | noForm value => exact value.isLine_literal.append (by decide)
  | notGroup value => exact (value.isLine_literal.append (by decide)).append (by decide)
  | missing key => exact (isLine_quoted key).append (by decide)
  | empty value => exact value.isLine_literal.append (by decide)
  | unexpected keys =>
      have listed : IsLine (", ".intercalate ((sortedKeys keys).map Scalar.literal)) :=
        .listed (List.forall_mem_map.mpr fun key _ => key.isLine_literal)
      have were : IsLine (if keys.length == 1 then " was" else " were") :=
        .ite (by decide) (by decide)
      exact ((IsLine.append (by decide) listed).append were).append (by decide)

end EntityDiagram
