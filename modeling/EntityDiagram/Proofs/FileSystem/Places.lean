import EntityDiagram.Proofs.FileSystem.Writing

/-!
# Files of one directory

A file is named by the bytes behind the last slash of its path.  So entries of one directory whose
names have no slash stand in the same place only if the bytes of their names are the same, whatever
the directory is.
-/

namespace EntityDiagram

/-! ### Bytes of names -/

namespace Text

/-- The bytes of a name. -/
def nameBytes (text : Text) : List UInt8 :=
  text.flatMap fun c => (fileNameBytes? c).getD []

@[simp]
theorem nameBytes_append (first second : Text) :
    nameBytes (first ++ second) = nameBytes first ++ nameBytes second :=
  List.flatMap_append

theorem fileNameEncode_eq_ok {text : Text} {bytes : List UInt8}
    (encoded : fileNameEncode text = .ok bytes) : bytes = nameBytes text := by
  unfold fileNameEncode at encoded
  split at encoded
  · cases encoded
  · exact (Except.ok.inj encoded).symm

theorem slashByte_ne_ofNat {n : Nat} (other : n ≠ 47) (low : n < 256) :
    slashByte ≠ UInt8.ofNat n := by
  intro same
  have value : slashByte.toNat = n := by
    rw [same, UInt8.toNat_ofNat', Nat.mod_eq_of_lt low]
  exact other value.symm

/-- Only the slash has the byte of a slash. -/
theorem slashByte_not_mem_utf8EncodeChar {c : Char} (notSlash : c ≠ '/') :
    slashByte ∉ String.utf8EncodeChar c := by
  have value : c.val.toNat ≠ 47 := by
    have slash : '/'.val.toNat = 47 := by decide
    rw [← slash]
    exact fun same => notSlash (Char.ext (UInt32.toNat_inj.mp same))
  have notByte {n : Nat} (other : n ≠ 47) (low : n < 256) := slashByte_ne_ofNat other low
  unfold String.utf8EncodeChar
  dsimp only
  split
  · simp only [List.mem_singleton]
    exact notByte value (by omega)
  · split
    · simp only [List.mem_cons, List.not_mem_nil, or_false, not_or]
      exact ⟨notByte (by omega) (by omega), notByte (by omega) (by omega)⟩
    · split
      · simp only [List.mem_cons, List.not_mem_nil, or_false, not_or]
        exact ⟨notByte (by omega) (by omega), notByte (by omega) (by omega),
          notByte (by omega) (by omega)⟩
      · simp only [List.mem_cons, List.not_mem_nil, or_false, not_or]
        exact ⟨notByte (by omega) (by omega), notByte (by omega) (by omega),
          notByte (by omega) (by omega), notByte (by omega) (by omega)⟩

theorem fileNameBytes?_char (c : Char) : fileNameBytes? c = some (String.utf8EncodeChar c) :=
  rfl

theorem fileNameBytes?_surrogate (offset : Fin 0x800) :
    fileNameBytes? (.surrogate offset) =
      if 0x80 ≤ (CodePoint.surrogate offset).toNat - byteSurrogate &&
          (CodePoint.surrogate offset).toNat - byteSurrogate < 0x100 then
        some [UInt8.ofNat ((CodePoint.surrogate offset).toNat - byteSurrogate)]
      else none :=
  rfl

theorem slashByte_not_mem_nameBytes {text : Text} (plain : CodePoint.char '/' ∉ text) :
    slashByte ∉ nameBytes text := by
  rw [nameBytes, List.mem_flatMap]
  rintro ⟨c, member, isByte⟩
  cases c with
  | char c =>
      rw [fileNameBytes?_char, Option.getD_some] at isByte
      refine slashByte_not_mem_utf8EncodeChar (fun same => ?_) isByte
      exact plain (same ▸ member)
  | surrogate offset =>
      rw [fileNameBytes?_surrogate] at isByte
      split at isByte
      · next high =>
          simp only [Bool.and_eq_true, decide_eq_true_eq] at high
          exact slashByte_ne_ofNat (by omega) high.2 (List.mem_singleton.mp isByte)
      · cases isByte

end Text

theorem systemBytes_eq_ok {text : Text} {bytes : List UInt8}
    (encoded : systemBytes text = .ok bytes) : bytes = text.nameBytes := by
  unfold systemBytes at encoded
  obtain ⟨other, named, encoded⟩ := bind_eq_ok_iff.mp encoded
  rw [mapError_eq_ok_iff] at named
  split at encoded
  · cases encoded
  · cases encoded
    exact Text.fileNameEncode_eq_ok named

/-- Where a path leads, if it can be followed. -/
def PathName.place (path : PathName) : Location := .ofBytes path.text.nameBytes

/-! ### Last parts -/

/-- The bytes behind the last slash, where `current` are those read so far in reverse. -/
def lastBytes (current : List UInt8) : List UInt8 → List UInt8
  | [] => current.reverse
  | byte :: rest => if byte = slashByte then lastBytes [] rest else lastBytes (byte :: current) rest

theorem getLast?_splitBytes (current bytes : List UInt8) :
    (splitBytes current bytes).getLast? = some (lastBytes current bytes) := by
  induction bytes generalizing current with
  | nil => rfl
  | cons byte bytes ih =>
      rw [splitBytes, lastBytes]
      split
      · rw [List.getLast?_cons, ih]
        rfl
      · exact ih _

theorem lastBytes_append {more : List UInt8} (plain : slashByte ∉ more)
    (current bytes : List UInt8) :
    lastBytes current (bytes ++ more) = lastBytes current bytes ++ more := by
  induction bytes generalizing current with
  | nil =>
      induction more generalizing current with
      | nil => simp [lastBytes]
      | cons byte more ih =>
          simp only [List.mem_cons, not_or] at plain
          have notSlash : byte ≠ slashByte := fun same => plain.1 same.symm
          have read := ih plain.2 (byte :: current)
          simp only [List.nil_append, lastBytes, List.reverse_cons] at read ⊢
          rw [if_neg notSlash, read, List.append_assoc, List.singleton_append]
  | cons byte bytes ih =>
      rw [List.cons_append, lastBytes, lastBytes]
      split
      · exact ih _
      · exact ih _

theorem PathPart.ofBytes_of_long {bytes : List UInt8} (long : 2 < bytes.length) :
    PathPart.ofBytes bytes = .name bytes := by
  have different {short : List UInt8} (isShort : short.length ≤ 2) : bytes ≠ short := by
    rintro rfl
    omega
  simp [PathPart.ofBytes, different]

/-- A file is named by the bytes behind the last slash of its path. -/
theorem Location.names_ofBytes_head? {bytes : List UInt8} (long : 2 < (lastBytes [] bytes).length) :
    (Location.ofBytes bytes).names.head? = some (lastBytes [] bytes) := by
  obtain ⟨front, last, parts⟩ := FileSystem.startOf_parts bytes
  have isLast : (startOf bytes).2.getLast? = some (.ofBytes (lastBytes [] bytes)) := by
    show ((splitBytes [] bytes).map PathPart.ofBytes).getLast? = _
    rw [List.getLast?_map, getLast?_splitBytes, Option.map_some]
  rw [parts, List.getLast?_concat, Option.some.injEq, PathPart.ofBytes_of_long long] at isLast
  rw [Location.ofBytes, parts, List.foldl_append, isLast]
  rfl

/-! ### Paths below a directory -/

namespace PathName

/-- The path of an entry of a directory. -/
def entry (directory : PathName) (name : Text) : PathName :=
  { directory with parts := directory.parts ++ [name] }

/-- What stands in front of the name in the text of an entry's path. -/
def front (directory : PathName) : Text :=
  directory.root ++ directory.parts.flatMap fun part => part ++ Text.ofString "/"

theorem text_entry (directory : PathName) (name : Text) :
    (directory.entry name).text = directory.front ++ name := by
  have joined (parts : List Text) : Text.joinWith "/" (parts ++ [name]) =
      (parts.flatMap fun part => part ++ Text.ofString "/") ++ name := by
    induction parts with
    | nil => simp [Text.joinWith]
    | cons part parts ih =>
        have nonempty : parts ++ [name] ≠ [] := by simp
        obtain ⟨next, rest, same⟩ := List.exists_cons_of_ne_nil nonempty
        rw [same] at ih
        rw [List.cons_append, same, List.flatMap_cons, List.append_assoc, ← ih]
        simp [Text.joinWith, List.intercalate]
  have hasParts : (directory.entry name).parts.isEmpty = false := by simp [entry]
  unfold text front
  rw [hasParts, Bool.and_false, if_neg (by simp)]
  simp [entry, joined]

/-- Entries of a directory that stand in the same place have names of the same bytes, unless they
are too short to be told from points. -/
theorem nameBytes_eq_of_place_eq {directory : PathName} {first second : Text}
    (firstPlain : CodePoint.char '/' ∉ first) (secondPlain : CodePoint.char '/' ∉ second)
    (firstLong : 2 < first.nameBytes.length) (secondLong : 2 < second.nameBytes.length)
    (same : (directory.entry first).place = (directory.entry second).place) :
    first.nameBytes = second.nameBytes := by
  have last {name : Text} (plain : CodePoint.char '/' ∉ name) (long : 2 < name.nameBytes.length) :
      (directory.entry name).place.names.head? =
        some (lastBytes [] directory.front.nameBytes ++ name.nameBytes) := by
    have bytes : lastBytes [] (directory.entry name).text.nameBytes =
        lastBytes [] directory.front.nameBytes ++ name.nameBytes := by
      rw [text_entry, Text.nameBytes_append,
        lastBytes_append (Text.slashByte_not_mem_nameBytes plain)]
    rw [place, Location.names_ofBytes_head?, bytes]
    rw [bytes, List.length_append]
    omega
  have heads := last firstPlain firstLong
  rw [same, last secondPlain secondLong, Option.some.injEq, List.append_cancel_left_eq] at heads
  exact heads.symm

theorem splitSlashes_of_plain {text : Text} (plain : CodePoint.char '/' ∉ text)
    (current : Text) : splitSlashes current text = [current.reverse ++ text] := by
  induction text generalizing current with
  | nil => simp [splitSlashes]
  | cons c text ih =>
      simp only [List.mem_cons, not_or] at plain
      have notSlash : c ≠ CodePoint.char '/' := fun same => plain.1 same.symm
      rw [splitSlashes, if_neg notSlash, ih plain.2]
      simp

/-- A name without a slash is joined to a directory as one part. -/
theorem join_of_plain {directory : PathName} {name : Text} (plain : CodePoint.char '/' ∉ name)
    (nonempty : name ≠ []) (notHere : name ≠ ".") : directory.join name = directory.entry name := by
  have noRoot : rootOf name = [] := by
    have noSlashes : name.takeWhile (· == CodePoint.char '/') = [] := by
      cases name with
      | nil => rfl
      | cons c name =>
          simp only [List.mem_cons, not_or] at plain
          simp [Ne.symm plain.1]
    rw [rootOf, noSlashes]
    rfl
  have oneName : partsOf name = [name] := by
    rw [partsOf, splitSlashes_of_plain plain]
    simp [nonempty, notHere]
  rw [join, noRoot, oneName]
  rfl

/-- A suffix without a point is taken off a name with something in front of it. -/
theorem stem_append {front suffix : Text} (nonempty : front ≠ []) (hasSuffix : suffix ≠ [])
    (plain : CodePoint.char '.' ∉ suffix) :
    stem (front ++ CodePoint.char '.' :: suffix) = front := by
  have passes : ∀ c ∈ suffix.reverse, (c != CodePoint.char '.') = true := by
    intro c member
    rw [List.mem_reverse] at member
    rw [bne_iff_ne]
    rintro rfl
    exact plain member
  have taken : (front ++ CodePoint.char '.' :: suffix).reverse.takeWhile
      (· != CodePoint.char '.') = suffix.reverse := by
    rw [List.reverse_append, List.reverse_cons, List.append_assoc,
      List.takeWhile_append_of_pos passes]
    simp
  unfold stem
  dsimp only
  rw [taken]
  have rest : ((front ++ CodePoint.char '.' :: suffix).reverse.drop
      (suffix.reverse.length + 1)).reverse = front := by
    simp [List.drop_append]
  rw [rest, if_neg]
  simp only [List.isEmpty_reverse, List.length_reverse, List.length_append, List.length_cons,
    Bool.or_eq_true, List.isEmpty_iff, beq_iff_eq, not_or]
  exact ⟨⟨hasSuffix, by omega⟩, nonempty⟩

end PathName

end EntityDiagram
