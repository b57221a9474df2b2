import EntityDiagram.Proofs.Document.Reading
import EntityDiagram.Proofs.Structure.Names

/-!
# Documents without surrogates

Only texts without surrogates have bytes.  When no text of a document holds a surrogate, neither
does any path that is read from it, at any depth, nor any name in the forests of these paths.
-/

namespace EntityDiagram

open Value (lookup?)

def Text.isUnicode (text : Text) : Bool :=
  text.all fun c => !c.isSurrogate

def Scalar.isUnicode : Scalar → Bool
  | text s => s.isUnicode
  | _ => true

namespace Value

mutual

/-- Whether no text in a value holds a surrogate. -/
def isUnicode : Value → Bool
  | scalar s => s.isUnicode
  | list items => areUnicode items
  | pair first second => first.isUnicode && second.isUnicode
  | set items => items.all Scalar.isUnicode
  | map entries => entriesAreUnicode entries

def areUnicode : List Value → Bool
  | [] => true
  | item :: rest => item.isUnicode && areUnicode rest

def entriesAreUnicode : List (Scalar × Value) → Bool
  | [] => true
  | (key, value) :: rest => key.isUnicode && value.isUnicode && entriesAreUnicode rest

end

theorem isUnicode_map_iff {entries : Mapping} :
    (Value.map entries).isUnicode = true ↔
      ∀ entry ∈ entries, entry.1.isUnicode = true ∧ entry.2.isUnicode = true := by
  simp only [isUnicode]
  induction entries with
  | nil => simp [entriesAreUnicode]
  | cons entry entries ih => simp [entriesAreUnicode, ih]

end Value

/-! ### Texts -/

namespace Text

@[simp]
theorem isUnicode_append (first second : Text) :
    isUnicode (first ++ second) = (first.isUnicode && second.isUnicode) := by
  simp [isUnicode]

@[simp]
theorem isUnicode_ofString (s : String) : (ofString s).isUnicode = true := by
  simp [isUnicode, ofString, ofChars, CodePoint.isSurrogate]

@[simp]
theorem isUnicode_ofChars (cs : List Char) : (ofChars cs).isUnicode = true := by
  simp [isUnicode, ofChars, CodePoint.isSurrogate]

theorem isUnicode_cutAtPoints {current path : Text} (currentUnicode : current.isUnicode = true)
    (pathUnicode : path.isUnicode = true) :
    ∀ segment ∈ cutAtPoints current path, segment.isUnicode = true := by
  induction path generalizing current with
  | nil => simpa [cutAtPoints, isUnicode] using currentUnicode
  | cons c path ih =>
      have parts : c.isSurrogate = false ∧ isUnicode path = true := by
        simpa [isUnicode] using pathUnicode
      rw [cutAtPoints]
      split
      · rintro segment (_ | ⟨_, member⟩)
        · simpa [isUnicode] using currentUnicode
        · exact ih rfl parts.2 segment member
      · refine ih ?_ parts.2
        simpa [isUnicode, parts.1] using currentUnicode

theorem isUnicode_segments {path : Text} (unicode : path.isUnicode = true) :
    SegmentsWithin (fun segment => segment.isUnicode = true) path :=
  isUnicode_cutAtPoints rfl unicode

end Text

theorem Scalar.isUnicode_display {scalar : Scalar} (unicode : scalar.isUnicode = true) :
    scalar.display.isUnicode = true := by
  cases scalar with
  | text s => exact unicode
  | _ => exact Text.isUnicode_ofString _

/-! ### Paths -/

/-- A schema whose paths hold no surrogates at any depth. -/
def UnicodePaths (paths : Paths) : Prop :=
  ∀ entry ∈ paths, entry.1.isUnicode = true ∧
    entry.2.PathsWithin fun path => path.isUnicode = true

/-- What is read from a value without surrogates has none in its paths. -/
structure ReadsUnicode (value : Value) : Prop where
  descriptor : ∀ defaultKind descriptor, readDescriptor defaultKind value = .ok descriptor →
    descriptor.PathsWithin fun path => path.isUnicode = true
  fields : ∀ front : Text, front.isUnicode = true → ∀ paths,
    flattenFields front value = .ok paths → UnicodePaths paths

theorem fieldPaths_unicode {value : Value} (reads : ReadsUnicode value) {path : Text}
    (unicode : path.isUnicode = true) {paths : Paths} (read : fieldPaths path value = .ok paths) :
    UnicodePaths paths := by
  unfold fieldPaths at read
  split at read
  · obtain ⟨descriptor, readAs, rfl⟩ := map_eq_ok_iff.mp read
    rintro entry (_ | ⟨_, ⟨⟩⟩)
    exact ⟨unicode, reads.descriptor .null descriptor readAs⟩
  · split at read
    · exact reads.fields (path ++ ".") (by simp [unicode]) paths read
    · cases read
      simp [UnicodePaths]

theorem flattenEntries_unicode {entries : Mapping} {front : Text}
    (keys : ∀ entry ∈ entries, entry.1.isUnicode = true)
    (reads : ∀ entry ∈ entries, ReadsUnicode entry.2) (frontUnicode : front.isUnicode = true)
    {paths : Paths} (flattened : flattenEntries front entries = .ok paths) :
    UnicodePaths paths := by
  induction entries generalizing paths with
  | nil =>
      rw [flattenEntries] at flattened
      cases flattened
      simp [UnicodePaths]
  | cons entry entries ih =>
      rw [flattenEntries_cons] at flattened
      obtain ⟨name, written, flattened⟩ := bind_eq_ok_iff.mp flattened
      obtain ⟨here, readHere, flattened⟩ := bind_eq_ok_iff.mp flattened
      obtain ⟨more, readMore, flattened⟩ := bind_eq_ok_iff.mp flattened
      cases flattened
      obtain rfl := (written_yields entry.1).good name written
      obtain ⟨keyUnicode, moreKeys⟩ := List.forall_mem_cons.mp keys
      obtain ⟨readsHere, readsMore⟩ := List.forall_mem_cons.mp reads
      have pathUnicode : (front ++ entry.1.display).isUnicode = true := by
        simp [frontUnicode, Scalar.isUnicode_display keyUnicode]
      have hereUnicode := fieldPaths_unicode readsHere pathUnicode readHere
      have moreUnicode := ih moreKeys readsMore readMore
      intro path member
      rcases List.mem_append.mp member with inHere | inMore
      · exact hereUnicode path inHere
      · exact moreUnicode path inMore

theorem readSchema_unicode {entries : Mapping} (reads : ∀ entry ∈ entries, ReadsUnicode entry.2)
    {schema : Option Paths} (read : readSchema entries = .ok schema) :
    ∀ paths, schema = some paths → UnicodePaths paths := by
  rw [readSchema_eq] at read
  split at read
  · next value found =>
      split at read
      · obtain ⟨nested, flattened, rfl⟩ := map_eq_ok_iff.mp read
        rintro paths ⟨⟩
        exact (reads _ (Value.mem_of_lookup? found)).fields "" (by simp) _ flattened
      · cases read
        rintro paths ⟨⟩
        simp [UnicodePaths]
  · cases read
    rintro paths ⟨⟩

theorem readElement_unicode {entries : Mapping} (reads : ∀ entry ∈ entries, ReadsUnicode entry.2)
    {element : Descriptor} (read : readElement entries = .ok element) :
    element ≠ .missing → element.PathsWithin fun path => path.isUnicode = true := by
  intro present
  rw [readElement_eq] at read
  split at read
  · next value found =>
      split at read
      · cases read
        exact (present rfl).elim
      · exact (reads _ (Value.mem_of_lookup? found)).descriptor _ element read
  · cases read
    exact (present rfl).elim

theorem readsUnicode_map {entries : Mapping}
    (keys : ∀ entry ∈ entries, entry.1.isUnicode = true)
    (reads : ∀ entry ∈ entries, ReadsUnicode entry.2) : ReadsUnicode (.map entries) where
  descriptor defaultKind descriptor read := by
    rw [readDescriptor_map] at read
    obtain ⟨schema, schemaRead, read⟩ := bind_eq_ok_iff.mp read
    obtain ⟨element, elementRead, read⟩ := bind_eq_ok_iff.mp read
    cases read
    have schemaUnicode := readSchema_unicode reads schemaRead
    refine .typed (fun paths given entry member => (schemaUnicode paths given entry member).1)
      (fun paths given entry member => (schemaUnicode paths given entry member).2) ?_
    split at elementRead
    · exact readElement_unicode reads elementRead
    · cases elementRead
      exact fun present => (present rfl).elim
  fields front frontUnicode paths flattened := by
    rw [flattenFields] at flattened
    exact flattenEntries_unicode keys reads frontUnicode flattened

/-- The only other value that is read is a text, which is a kind without paths. -/
theorem readsUnicode_of_not_map {value : Value} (notMap : ∀ entries, value ≠ .map entries) :
    ReadsUnicode value where
  descriptor defaultKind descriptor read := by
    by_cases isText : ∃ kind, value = .text kind
    · obtain ⟨kind, rfl⟩ := isText
      rw [readDescriptor] at read
      cases read
      exact .ofKind _
    · rw [readDescriptor] at read
      · cases read
      · exact fun kind equal => isText ⟨kind, equal⟩
      · exact notMap
  fields front frontUnicode paths flattened := by
    rw [flattenFields] at flattened
    · cases flattened
    · exact notMap

theorem readsUnicode {value : Value} (unicode : value.isUnicode = true) : ReadsUnicode value := by
  induction value using Value.induction_on_entries with
  | map entries reads =>
      have parts := Value.isUnicode_map_iff.mp unicode
      exact readsUnicode_map (fun entry member => (parts entry member).1)
        fun entry member => reads entry member (parts entry member).2
  | other value notMap => exact readsUnicode_of_not_map notMap

theorem Descriptor.PathsWithin.mono {allowed wider : Text → Prop} {descriptor : Descriptor}
    (within : descriptor.PathsWithin allowed) (widens : ∀ path, allowed path → wider path) :
    descriptor.PathsWithin wider := by
  induction within with
  | typed paths nested inner nestedWider innerWider =>
      exact .typed (fun schema given entry member => widens _ (paths schema given entry member))
        nestedWider innerWider

/-- A forest without surrogates in its names is built from paths without them. -/
theorem UnicodePaths.buildForest {paths : Paths} (unicode : UnicodePaths paths) {forest : Forest}
    (built : buildForest paths = .ok forest) :
    Forest.NamesWithin (fun name => name.isUnicode = true) forest :=
  buildForest_namesWithin (by simp)
    (fun entry member => Text.isUnicode_segments (unicode entry member).1)
    (fun entry member => (unicode entry member).2.mono fun _ => Text.isUnicode_segments) built

end EntityDiagram
