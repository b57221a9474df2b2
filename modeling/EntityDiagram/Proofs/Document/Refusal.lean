import EntityDiagram.Proofs.Document.Breaches
import EntityDiagram.Proofs.Document.Report
import EntityDiagram.Proofs.Document.Writable
import Mathlib.Data.List.Sigma

/-!
# How a document is refused

The report of a refused document has a line for each breach of the format, at the place of the
breach and in the order of the places, when the keys of the document are plain.  No two breaches
have the same place then: the places behind different steps are different, and at the place of a
value there is one breach at most.  The main statement is `report_exact`.
-/

namespace EntityDiagram

open Value (lookup?)

/-! ### Plain keys -/

/-- A key that is a text without line breaks. -/
def Scalar.IsPlain : Scalar → Prop
  | .text key => CodePoint.char '\n' ∉ key
  | _ => False

theorem Scalar.isPlain_iff {scalar : Scalar} :
    scalar.IsPlain ↔ ∃ key, scalar = .text key ∧ CodePoint.char '\n' ∉ key := by
  cases scalar <;> simp [IsPlain]

instance instDecidablePredScalarIsPlain : DecidablePred Scalar.IsPlain
  | .text key => inferInstanceAs (Decidable (CodePoint.char '\n' ∉ key))
  | .null | .bool _ | .int _ | .float _ | .undefined _ | .date _ | .moment _ | .bytes _ =>
      inferInstanceAs (Decidable False)

/-- The keys of a mapping are different texts without line breaks. -/
def Mapping.HasPlainKeys (entries : Mapping) : Prop :=
  (entries.map Prod.fst).Nodup ∧ ∀ key ∈ entries.map Prod.fst, key.IsPlain

instance instDecidableMappingHasPlainKeys (entries : Mapping) :
    Decidable (Mapping.HasPlainKeys entries) :=
  inferInstanceAs (Decidable (_ ∧ _))

/-- All mappings in a value have plain keys. -/
def Value.HasPlainKeys (value : Value) : Prop :=
  ∀ steps entries, value.Reaches steps (.map entries) → Mapping.HasPlainKeys entries

theorem Mapping.HasPlainKeys.pairwise_display_ne {entries : Mapping}
    (plain : Mapping.HasPlainKeys entries) :
    entries.Pairwise fun entry other =>
      (Step.key entry.1).display ≠ (Step.key other.1).display := by
  obtain ⟨distinct, texts⟩ := plain
  refine (List.pairwise_map.mp distinct).imp_of_mem ?_
  intro entry other member otherMember different same
  obtain ⟨key, isText, -⟩ := Scalar.isPlain_iff.mp (texts _ (List.mem_map_of_mem member))
  obtain ⟨otherKey, otherIsText, -⟩ :=
    Scalar.isPlain_iff.mp (texts _ (List.mem_map_of_mem otherMember))
  rw [isText, otherIsText] at different same
  exact different (congrArg Scalar.text same)

namespace Value

theorem hasPlainKeys_scalar (scalar : Scalar) : (Value.scalar scalar).HasPlainKeys := by
  intro steps entries reaches
  cases reaches

theorem hasPlainKeys_list_iff {items : List Value} :
    (Value.list items).HasPlainKeys ↔ ∀ item ∈ items, item.HasPlainKeys := by
  constructor
  · intro plain item member steps entries reaches
    obtain ⟨index, found⟩ := List.mem_iff_getElem?.mp member
    exact plain _ entries (.item found reaches)
  · intro plain steps entries reaches
    cases reaches with
    | item found below => exact plain _ (List.mem_of_getElem? found) _ entries below

theorem hasPlainKeys_map_iff {entries : Mapping} :
    (Value.map entries).HasPlainKeys ↔
      Mapping.HasPlainKeys entries ∧ ∀ entry ∈ entries, entry.2.HasPlainKeys := by
  constructor
  · intro plain
    exact ⟨plain [] entries .here,
      fun entry member steps inner reaches => plain _ inner (.entry member reaches)⟩
  · rintro ⟨plain, inside⟩ steps inner reaches
    cases reaches with
    | here => exact plain
    | entry member below => exact inside _ member _ inner below

namespace HasPlainKeys

variable {value : Value} (plain : value.HasPlainKeys)

include plain

theorem reached {steps : Place} {inner : Value} (reaches : value.Reaches steps inner) :
    inner.HasPlainKeys :=
  fun _ entries further => plain _ entries (reaches.trans further)

theorem onLine {steps : Place} {inner : Value} (reaches : value.Reaches steps inner) :
    Place.OnLine steps := by
  induction reaches with
  | here => exact fun _ member => nomatch member
  | @entry entries entry steps inner member below ih =>
      refine List.forall_mem_cons.mpr ⟨?_, ih (plain.reached (.entry member .here))⟩
      obtain ⟨key, isText, noBreak⟩ :=
        Scalar.isPlain_iff.mp ((plain [] entries .here).2 _ (List.mem_map_of_mem member))
      rw [Step.display, isText]
      exact noBreak
  | @item items index item steps inner found below ih =>
      refine List.forall_mem_cons.mpr ⟨?_, ih (plain.reached (.item found .here))⟩
      exact newline_not_mem_ofString (isLine_nat index)

/-- All lines of a violation name places of one line. -/
theorem violation_onLine {violation : Violation} (about : violation.About [] value) :
    ∀ complaint ∈ violation.complaint :: violation.context, complaint.place.OnLine := by
  cases about with
  | single reaches shows => exact List.forall_mem_singleton.mpr (plain.onLine reaches)
  | noForm reaches within =>
      refine List.forall_mem_cons.mpr ⟨plain.onLine reaches, fun complaint member => ?_⟩
      cases within complaint member with
      | mk further shows => exact plain.onLine (reaches.trans further)

end HasPlainKeys

end Value

theorem Text.ofString_injective : Function.Injective Text.ofString := by
  have charInjective : Function.Injective CodePoint.char := fun _ _ => CodePoint.char.inj
  exact fun _ _ same => String.toList_injective (List.map_injective_iff.mpr charInjective same)

/-- The number of an item can be read off its text. -/
theorem Step.display_index_injective :
    Function.Injective fun index => (Step.index index).display := by
  intro first second same
  have digits : Nat.toDigits 10 first = Nat.toDigits 10 second := by
    rw [← Nat.toList_repr, ← Nat.toList_repr]
    exact congrArg String.toList (Text.ofString_injective same)
  have readBack (n : Nat) : Nat.ofDigitChars 10 (Nat.toDigits 10 n) 0 = n :=
    Nat.ofDigitChars_toDigits (by decide) (by decide)
  rw [← readBack first, digits, readBack]

/-! ### Different places -/

/-- Violations of which no two name places with the same texts. -/
def Apart (violations : List Violation) : Prop :=
  violations.Pairwise fun first second =>
    first.complaint.place.segments ≠ second.complaint.place.segments

/-- Violations at places behind a step. -/
def Behind (place : Place) (step : Step) (violations : List Violation) : Prop :=
  ∀ violation ∈ violations, ∃ rest,
    violation.complaint.place.segments = place.segments ++ step.display :: rest

theorem AllAbout.behind {place : Place} {step : Step} {value : Value} {violations : List Violation}
    (allAbout : AllAbout (place ++ [step]) value violations) : Behind place step violations := by
  intro violation member
  obtain ⟨steps, same⟩ := (allAbout violation member).exists_place_eq
  refine ⟨steps.segments, ?_⟩
  rw [same, List.append_assoc]
  exact List.map_append

/-- Behind a step every place is longer than the one before the step. -/
theorem Behind.segments_ne_place {place : Place} {step : Step} {violations : List Violation}
    (behind : Behind place step violations) :
    ∀ violation ∈ violations, violation.complaint.place.segments ≠ place.segments := by
  intro violation member equal
  obtain ⟨rest, same⟩ := behind violation member
  rw [equal] at same
  exact List.cons_ne_nil _ _ (List.self_eq_append_right.mp same)

namespace Apart

theorem nil : Apart [] :=
  List.Pairwise.nil

theorem single (violation : Violation) : Apart [violation] :=
  List.pairwise_singleton _ violation

/-- Violations behind steps with different texts. -/
theorem flatMap {α : Type} {items : List α} (place : Place) {step : α → Step}
    {check : α → List Violation}
    (different : items.Pairwise fun item other => (step item).display ≠ (step other).display)
    (behind : ∀ item ∈ items, Behind place (step item) (check item))
    (apart : ∀ item ∈ items, Apart (check item)) : Apart (items.flatMap check) := by
  refine List.pairwise_flatMap.mpr ⟨apart, different.imp_of_mem ?_⟩
  intro item other member otherMember displays violation inItem another inOther equal
  obtain ⟨rest, same⟩ := behind item member violation inItem
  obtain ⟨otherRest, otherSame⟩ := behind other otherMember another inOther
  rw [same, otherSame] at equal
  exact displays (List.cons.inj (List.append_cancel_left equal)).1

end Apart

section

variable (place : Place)

theorem apart_checkShape (expected : List Shape) (value : Value) :
    Apart (checkShape expected place value) := by
  unfold checkShape
  split
  · exact .nil
  · exact .single _

theorem apart_checkField (value : Value) : Apart (checkField place value) := by
  rcases checkField_cases place value with same | ⟨context, same⟩
  · rw [same]
    exact .nil
  · rw [same]
    exact .single _

theorem apart_checkFields {value : Value} (plain : value.HasPlainKeys) :
    Apart (checkFields place value) := by
  by_cases isMap : ∃ entries, value = .map entries
  · obtain ⟨entries, rfl⟩ := isMap
    rw [checkFields, checkFieldEntries_eq_flatMap]
    exact .flatMap place (plain [] entries .here).pairwise_display_ne
      (fun entry _ => ((checksAbout entry.2).field _).behind)
      fun entry _ => apart_checkField _ entry.2
  · rw [checkFields]
    · exact apart_checkShape place _ value
    · exact fun entries same => isMap ⟨entries, same⟩

theorem apart_checkNames (value : Value) : Apart (checkNames place value) := by
  unfold checkNames
  split
  · next items =>
      have different : (items.zipIdx 0).Pairwise fun item other =>
          (Step.index item.2).display ≠ (Step.index other.2).display :=
        (List.pairwise_map.mp (List.nodup_zipIdx_map_snd items)).imp
          Step.display_index_injective.ne
      rw [checkTexts_eq_flatMap]
      exact .flatMap place different (fun item _ => checkShape_about.behind)
        fun item _ => apart_checkShape _ _ item.1
  · exact apart_checkShape place _ value

/-- The checks of the values in a model, with their keys. -/
def modelChecks : List (Text × (Place → Value → List Violation)) :=
  [("fields", checkFields), ("methods", checkNames), ("statics", checkNames)]

theorem checkModel_map_eq (entries : Mapping) :
    checkModel place (.map entries) =
      (modelChecks.flatMap fun part => checkKey part.2 place entries part.1) ++
        checkKeys modelKeys place entries := by
  simp [checkModel, modelChecks]

theorem modelChecks_about :
    ∀ part ∈ modelChecks, ∀ place value, AllAbout place value (part.2 place value) := by
  simp only [modelChecks, List.forall_mem_cons]
  exact ⟨fun place value => (checksAbout value).fields place, checkNames_about, checkNames_about,
    fun _ member => nomatch member⟩

theorem modelChecks_apart {value : Value} (plain : value.HasPlainKeys) :
    ∀ part ∈ modelChecks, ∀ place, Apart (part.2 place value) := by
  simp only [modelChecks, List.forall_mem_cons]
  exact ⟨fun place => apart_checkFields place plain, fun place => apart_checkNames place value,
    fun place => apart_checkNames place value, fun _ member => nomatch member⟩

theorem checkKey_behind {check : Place → Value → List Violation} {entries : Mapping} {key : Text}
    (about : ∀ place value, AllAbout place value (check place value)) :
    Behind place (.key (.text key)) (checkKey check place entries key) := by
  unfold checkKey
  split
  · exact fun _ member => nomatch member
  · exact (about _ _).behind

theorem apart_checkKeys (known : List Text) (entries : Mapping) :
    Apart (checkKeys known place entries) := by
  rw [checkKeys_eq]
  split
  · exact .nil
  · exact .single _

theorem place_of_mem_checkKeys {known : List Text} {entries : Mapping} :
    ∀ violation ∈ checkKeys known place entries, violation.complaint.place = place := by
  rw [checkKeys_eq]
  split
  · exact fun _ member => nomatch member
  · exact List.forall_mem_singleton.mpr rfl

theorem apart_checkModel {value : Value} (plain : value.HasPlainKeys) :
    Apart (checkModel place value) := by
  by_cases isMap : ∃ entries, value = .map entries
  · obtain ⟨entries, rfl⟩ := isMap
    have behind : ∀ part ∈ modelChecks,
        Behind place (.key (.text part.1)) (checkKey part.2 place entries part.1) :=
      fun part member => checkKey_behind place (modelChecks_about part member)
    have partApart : ∀ part ∈ modelChecks, Apart (checkKey part.2 place entries part.1) := by
      intro part member
      unfold checkKey
      split
      · exact .nil
      · next value found =>
          have valuePlain := plain.reached (.entry (Value.mem_of_lookup? found) .here)
          exact modelChecks_apart valuePlain part member _
    have different : modelChecks.Pairwise fun part other =>
        (Step.key (.text part.1)).display ≠ (Step.key (.text other.1)).display :=
      List.pairwise_map.mp (by decide : (["fields", "methods", "statics"] : List Text).Nodup)
    rw [checkModel_map_eq]
    refine List.pairwise_append.mpr ⟨Apart.flatMap place different behind partApart,
      apart_checkKeys place _ entries, ?_⟩
    -- The unknown keys are named at the place of the model, and everything else behind it.
    intro violation inParts another inKeys
    obtain ⟨part, member, inPart⟩ := List.mem_flatMap.mp inParts
    rw [place_of_mem_checkKeys place another inKeys]
    exact (behind part member).segments_ne_place violation inPart
  · rw [checkModel]
    · exact apart_checkShape place _ value
    · exact fun entries same => isMap ⟨entries, same⟩

end

/-! ### Documents with models -/

/-- What the check of models has to write out and cannot: the value of a field that is no kind, or
what is wrong with a model. -/
def ModelsUnwritable (models : Mapping) : Prop :=
  (∃ entry ∈ models, ∃ field ∈ fieldValues entry.2,
      ¬ Grammar.Kind field ∧ field.isWritable = false) ∨
    ∃ complaint, ModelsBreach models complaint ∧ complaint.isWritable = false

section

variable {document models : Mapping} (found : lookup? document "models" = some (.map models))
  (nonempty : models ≠ [])

include found nonempty

theorem apart_checkDocument (plain : (Value.map document).HasPlainKeys) :
    Apart (checkDocument (.map document)) := by
  have modelsPlain : (Value.map models).HasPlainKeys :=
    plain.reached (.entry (Value.mem_of_lookup? found) .here)
  rw [checkDocument_eq found nonempty]
  exact .flatMap [.key (.text "models")] (modelsPlain [] models .here).pairwise_display_ne
    (fun entry _ => (checkModel_about _ entry.2).behind)
    fun entry member => apart_checkModel _ (modelsPlain.reached (.entry member .here))

theorem canReport_eq_true_iff :
    canReport (.map document) (checkDocument (.map document)) = true ↔
      ¬ ModelsUnwritable models := by
  have fields : documentFields (.map document) =
      models.flatMap fun model => fieldValues model.2 := by
    simp [documentFields, found]
  have violations : (∀ violation ∈ checkDocument (.map document), violation.isWritable = true) ↔
      ∀ complaint, ModelsBreach models complaint → complaint.isWritable = true := by
    simp only [← mem_complaints_checkDocument found nonempty]
    rw [complaintsOf, List.forall_mem_map]
    refine forall₂_congr fun violation member => ?_
    rw [(checkDocument_about document violation member).isWritable_eq]
  simp only [canReport, fields, Bool.and_eq_true, List.all_eq_true, violations, ModelsUnwritable,
    List.forall_mem_flatMap, Bool.or_eq_true, isKind_iff]
  grind

end

theorem validate_eq_fault_iff {document : Value} :
    validate document = .error (.fault .tooManyDigits) ↔
      canReport document (checkDocument document) = false := by
  unfold validate
  generalize checkDocument document = violations
  cases reportable : canReport document violations <;> cases violations <;> simp [reportable]

theorem validate_eq_ok_iff_canReport {document : Value} :
    validate document = .ok () ↔
      canReport document (checkDocument document) = true ∧ checkDocument document = [] := by
  unfold validate
  generalize checkDocument document = violations
  cases reportable : canReport document violations <;> cases violations <;> simp [reportable]

theorem validate_eq_invalid {document : Value}
    (reportable : canReport document (checkDocument document) = true)
    (violated : checkDocument document ≠ []) :
    validate document = .error (.conversion (.invalid (checkDocument document))) := by
  simp [validate, reportable, violated]

/-- A document with models and plain keys is refused with an exact report.  Its lines are those of
the breaches in its models, each breach once, in the strict order of their places.  Only what cannot
be written stops the check. -/
theorem report_exact {document models : Mapping}
    (found : lookup? document "models" = some (.map models)) (nonempty : models ≠ [])
    (plain : (Value.map document).HasPlainKeys) :
    (validate (.map document) = .error (.fault .tooManyDigits) ↔ ModelsUnwritable models) ∧
      (validate (.map document) = .ok () ↔
        ¬ ModelsUnwritable models ∧ ∀ complaint, ¬ ModelsBreach models complaint) ∧
      (validate (.map document) ≠ .ok () → ¬ ModelsUnwritable models →
        ∃ (error : ConversionError) (complaints : List Complaint),
          validate (.map document) = .error (.conversion error) ∧
          reportLines error.message = complaints.map Complaint.line ∧
          complaints.Pairwise (fun first second => first.place.Before second.place) ∧
          ∀ complaint, complaint ∈ complaints ↔ ModelsBreach models complaint) := by
  have reportable := canReport_eq_true_iff found nonempty
  have breaches (complaint : Complaint) :
      complaint ∈ complaintsOf (checkDocument (.map document)) ↔ ModelsBreach models complaint :=
    mem_complaints_checkDocument found nonempty
  refine ⟨?_, ?_, fun refused writable => ?_⟩
  · rw [validate_eq_fault_iff, ← Bool.not_eq_true, reportable, not_not]
  · have unbroken : checkDocument (.map document) = [] ↔
        ∀ complaint, ¬ ModelsBreach models complaint := by
      rw [← complaintsOf_eq_nil_iff, List.eq_nil_iff_forall_not_mem]
      exact forall_congr' fun complaint => not_congr (breaches complaint)
    rw [validate_eq_ok_iff_canReport, reportable, unbroken]
  · have violated : checkDocument (.map document) ≠ [] := fun unbroken =>
      refused (validate_eq_ok_iff_canReport.mpr ⟨reportable.mpr writable, unbroken⟩)
    have onLine : ∀ violation ∈ checkDocument (.map document),
        ∀ complaint ∈ violation.complaint :: violation.context, complaint.place.OnLine :=
      fun violation member => plain.violation_onLine (checkDocument_about document violation member)
    have sorted := sortViolations_before (apart_checkDocument found nonempty plain)
    have sameComplaints := (sortViolations_perm (checkDocument (.map document))).map
      Violation.complaint
    refine ⟨_, complaintsOf (sortViolations (checkDocument (.map document))),
      validate_eq_invalid (reportable.mpr writable) violated, ?_, List.pairwise_map.mpr sorted,
      fun complaint => sameComplaints.mem_iff.trans (breaches complaint)⟩
    rw [complaintsOf, List.map_map]
    exact reportLines_violationReport violated onLine

/-- A field of a form that has two defects. -/
def brokenField : Value := .map [(.text "type", .text "Nope"), (.text "unique", .text "yes")]

/-- Models with breaches at different depths, the model of the later place first. -/
def brokenModels : Mapping :=
  [(.text "B", .list [.text "x"]),
    (.text "A", .map [
      (.text "fields", .map [(.text "n", brokenField), (.text "ok", .text "String")]),
      (.text "methods", .list [.text "run", .null]), (.text "extra", .null)])]

def brokenDocument : Mapping := [(.text "models", .map brokenModels)]

theorem brokenDocument_plain : (Value.map brokenDocument).HasPlainKeys := by
  simp only [brokenDocument, brokenModels, brokenField, Value.hasPlainKeys_map_iff,
    Value.hasPlainKeys_list_iff, Value.hasPlainKeys_scalar, List.forall_mem_cons, List.not_mem_nil,
    IsEmpty.forall_iff, implies_true, and_true]
  decide

theorem not_modelsUnwritable_brokenModels : ¬ ModelsUnwritable brokenModels := by
  have found : lookup? brokenDocument "models" = some (.map brokenModels) := rfl
  have written : canReport (.map brokenDocument) (checkDocument (.map brokenDocument)) = true :=
    canReport_of_isWritable rfl
  exact (canReport_eq_true_iff found (List.cons_ne_nil _ _)).mp written

/-- The report of the document has one line for the field. -/
theorem brokenDocument_report_exact :
    (lookup? brokenDocument "models" = some (.map brokenModels) ∧ brokenModels ≠ [] ∧
      (Value.map brokenDocument).HasPlainKeys ∧ validate (.map brokenDocument) ≠ .ok () ∧
      ¬ ModelsUnwritable brokenModels) ∧
    ∃ (error : ConversionError) (complaints : List Complaint),
      validate (.map brokenDocument) = .error (.conversion error) ∧
      reportLines error.message = complaints.map Complaint.line ∧
      complaints.Pairwise (fun first second => first.place.Before second.place) ∧
      (∀ complaint, complaint ∈ complaints ↔ ModelsBreach brokenModels complaint) ∧
      ⟨[.key (.text "models"), .key (.text "A"), .key (.text "fields"), .key (.text "n")],
        .noForm brokenField⟩ ∈ complaints := by
  have found : lookup? brokenDocument "models" = some (.map brokenModels) := rfl
  have nonempty : brokenModels ≠ [] := List.cons_ne_nil _ _
  have writable := not_modelsUnwritable_brokenModels
  have refusedField : ¬ Grammar.Field brokenField := by
    rw [← (checksAgree brokenField).field []]
    exact fun accepted => nomatch accepted
  have breach : ModelsBreach brokenModels
      ⟨[.key (.text "models"), .key (.text "A"), .key (.text "fields"), .key (.text "n")],
        .noForm brokenField⟩ :=
    ⟨_, List.mem_cons_of_mem _ List.mem_cons_self,
      .fields rfl (.field List.mem_cons_self refusedField)⟩
  obtain ⟨-, accepted, report⟩ := report_exact found nonempty brokenDocument_plain
  have refused : validate (.map brokenDocument) ≠ .ok () :=
    fun unbroken => (accepted.mp unbroken).2 _ breach
  obtain ⟨error, complaints, fails, lines, sorted, breaches⟩ := report refused writable
  exact ⟨⟨found, nonempty, brokenDocument_plain, refused, writable⟩, error, complaints, fails,
    lines, sorted, breaches, (breaches _).mpr breach⟩

/-- Models with a field that is a number with too many digits. -/
def unwritableModels : Mapping :=
  [(.text "A", .map [(.text "fields", .map [(.text "x", .scalar unwritableKey)])])]

def unreportedDocument : Mapping := [(.text "models", .map unwritableModels)]

/-- Not every refused document has a report, plain as its keys may be. -/
theorem unreportedDocument_no_report :
    lookup? unreportedDocument "models" = some (.map unwritableModels) ∧ unwritableModels ≠ [] ∧
      (Value.map unreportedDocument).HasPlainKeys ∧
      ModelsBreach unwritableModels
        ⟨[.key (.text "models"), .key (.text "A"), .key (.text "fields"), .key (.text "x")],
          .noForm (.scalar unwritableKey)⟩ ∧
      validate (.map unreportedDocument) ≠ .ok () ∧
      ∀ error, validate (.map unreportedDocument) ≠ .error (.conversion error) := by
  have found : lookup? unreportedDocument "models" = some (.map unwritableModels) := rfl
  have nonempty : unwritableModels ≠ [] := List.cons_ne_nil _ _
  have plain : (Value.map unreportedDocument).HasPlainKeys := by
    simp only [unreportedDocument, unwritableModels, Value.hasPlainKeys_map_iff,
      Value.hasPlainKeys_scalar, List.forall_mem_cons, List.not_mem_nil, IsEmpty.forall_iff,
      implies_true, and_true]
    decide
  have notKind : ¬ Grammar.Kind (.scalar unwritableKey) := by
    rintro ⟨kind, -, same⟩
    cases same
  have refusedField : ¬ Grammar.Field (.scalar unwritableKey) :=
    mt (Grammar.field_iff_kind fun _ => Value.noConfusion).mp notKind
  have breach : ModelsBreach unwritableModels
      ⟨[.key (.text "models"), .key (.text "A"), .key (.text "fields"), .key (.text "x")],
        .noForm (.scalar unwritableKey)⟩ :=
    ⟨_, List.mem_cons_self, .fields rfl (.field List.mem_cons_self refusedField)⟩
  have unwritable : ModelsUnwritable unwritableModels :=
    .inl ⟨_, List.mem_cons_self, _, List.mem_cons_self, notKind, unwritableKey_not_writable⟩
  have stops : validate (.map unreportedDocument) = .error (.fault .tooManyDigits) := by
    rw [validate_eq_fault_iff, ← Bool.not_eq_true, canReport_eq_true_iff found nonempty]
    exact not_not.mpr unwritable
  refine ⟨found, nonempty, plain, breach, ?_, fun error => ?_⟩
  · rw [stops]
    exact fun accepted => nomatch accepted
  · rw [stops]
    exact fun reported => nomatch reported

end EntityDiagram
