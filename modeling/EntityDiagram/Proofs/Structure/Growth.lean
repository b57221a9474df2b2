import EntityDiagram.Structure.Forest

/-!
# Growth without faults

Inserting a path can only fail because a descriptor is missing in some nested schema.  This file
gives the induction on descriptors, the descriptors that miss nothing, and the two things that
such a descriptor can make of the children that a node has: it leaves them, or it replaces them
by its expansion.
-/

namespace EntityDiagram

/-- Induction on a descriptor, through the paths of its schema and its element. -/
@[elab_as_elim]
theorem Descriptor.induction_on {motive : Descriptor → Prop} (descriptor : Descriptor)
    (missing : motive .missing)
    (typed : ∀ (kind : Value) (options : Options) (schema : Option Paths) (element : Descriptor),
      (∀ paths, schema = some paths → ∀ entry ∈ paths, motive entry.2) → motive element →
        motive (.typed kind options schema element)) :
    motive descriptor := by
  match descriptor with
  | .missing => exact missing
  | .typed kind options none element =>
      apply typed kind options none element
      · intro paths absent
        cases absent
      · exact Descriptor.induction_on element missing typed
  | .typed kind options (some paths) element =>
      apply typed kind options (some paths) element
      · intro others same entry member
        cases same
        exact Descriptor.induction_on entry.2 missing typed
      · exact Descriptor.induction_on element missing typed
termination_by sizeOf descriptor
decreasing_by
  · simp +arith
  · have smallerEntry := List.sizeOf_lt_of_mem member
    have smallerDescriptor : sizeOf entry.2 < sizeOf entry := by
      cases entry
      simp +arith
    simp only [Descriptor.typed.sizeOf_spec, Option.some.sizeOf_spec]
    omega
  · simp +arith

/-- A descriptor that is there, with all those below it, and whose nested paths are allowed. -/
inductive Descriptor.PathsWithin (allowed : Text → Prop) : Descriptor → Prop
  | typed {kind : Value} {options : Options} {schema : Option Paths} {element : Descriptor}
      (paths : ∀ paths, schema = some paths → ∀ entry ∈ paths, allowed entry.1)
      (nested : ∀ paths, schema = some paths → ∀ entry ∈ paths, PathsWithin allowed entry.2)
      (inner : element ≠ .missing → PathsWithin allowed element) :
      PathsWithin allowed (.typed kind options schema element)

/-- A descriptor that is there, with all those below it; an array need not have an element. -/
def Descriptor.Complete (descriptor : Descriptor) : Prop :=
  descriptor.PathsWithin fun _ => True

/-- Paths that all have complete descriptors. -/
def CompletePaths (paths : Paths) : Prop :=
  ∀ entry ∈ paths, entry.2.Complete

theorem Descriptor.PathsWithin.ofKind {allowed : Text → Prop} (kind : Value) :
    (Descriptor.ofKind kind).PathsWithin allowed := by
  refine .typed ?_ ?_ fun present => (present rfl).elim
  · rintro paths ⟨⟩
  · rintro paths ⟨⟩

/-! ### Properties of grown forests -/

section

variable {good : Forest → Prop}

/-- A growth that has nothing but good forests for the children of a node. -/
def Growth.Gives (good : Forest → Prop) (growth : Growth) : Prop :=
  ∀ children, growth = .replace children → good children

theorem Growth.gives_keep : Growth.keep.Gives good := by
  rintro children ⟨⟩

theorem Growth.gives_prune : Growth.prune.Gives good := by
  rintro children ⟨⟩

/-- What each insertion keeps is kept by paths that grow one after another. -/
theorem growForest_keeps {paths : Paths}
    (step : ∀ entry ∈ paths, ∀ forest : Forest, good forest →
      good (forest.updatePath (entry.2.change entry.2.growth.1) (Text.segments entry.1)))
    {forest grown : Forest} (holds : good forest) (grows : growForest forest paths = .ok grown) :
    good grown := by
  induction paths generalizing forest with
  | nil =>
      rw [growForest] at grows
      cases grows
      exact holds
  | cons entry paths ih =>
      obtain ⟨first, rest⟩ := List.forall_mem_cons.mp step
      rw [growForest] at grows
      split at grows
      · next growth entryGrows =>
          have inserted := first forest holds
          rw [entryGrows] at inserted
          exact ih rest inserted grows
      · cases grows

theorem schemaGrowth_gives {schema : Option Paths}
    (grown : ∀ paths, schema = some paths → ∀ forest, growForest [] paths = .ok forest →
      good forest)
    {absent faulty : Growth} (ofAbsent : absent.Gives good) (ofFaulty : faulty.Gives good) :
    (schemaGrowth absent faulty schema).1.Gives good := by
  cases schema with
  | none => exact ofAbsent
  | some paths =>
      rw [schemaGrowth]
      split
      · next forest grows =>
          rintro children ⟨⟩
          exact grown paths rfl forest grows
      · exact ofFaulty

/-- The children of a descriptor's node come from its own schema, from the growth of its element, or
they are the `item` node of a plain element. -/
theorem Descriptor.growth_gives {kind : Value} {options : Options} {schema : Option Paths}
    {element : Descriptor}
    (grown : ∀ paths, schema = some paths → ∀ forest, growForest [] paths = .ok forest →
      good forest)
    (inner : element.elementGrowth.1.Gives good) (item : good [itemNode kind options]) :
    (typed kind options schema element).growth.1.Gives good ∧
      (typed kind options schema element).elementGrowth.1.Gives good := by
  constructor
  · rw [Descriptor.growth]
    split
    · split
      · next fromElement fault elementGrows => exact elementGrows ▸ inner
      · next fromElement elementGrows =>
          rw [elementGrows] at inner
          exact schemaGrowth_gives grown inner inner
    · exact schemaGrowth_gives grown Growth.gives_prune Growth.gives_keep
  · rw [Descriptor.elementGrowth]
    refine schemaGrowth_gives grown ?_ Growth.gives_keep
    rintro children ⟨⟩
    exact item

end

/-! ### Descriptors that replace children -/

/-- Whether a descriptor decides on the children of its node: by a schema of its own, or by the
element of an array. -/
def Descriptor.replaces : Descriptor → Bool
  | .missing => false
  | .typed _ _ (some _) _ => true
  | .typed kind _ none (.typed _ _ _ _) => kind.isText arrayKind
  | .typed _ _ none .missing => false

/-- The children that such a descriptor gives to its node: an own schema comes first, then the
schema of the element, then the element itself. -/
def Descriptor.expansion : Descriptor → Except Fault Forest
  | .typed _ _ (some paths) _ => buildForest paths
  | .typed _ _ none (.typed _ _ (some paths) _) => buildForest paths
  | .typed _ _ none (.typed kind options none _) => .ok [itemNode kind options]
  | _ => .ok []

/-- Paths grow on any forest when each descriptor grows. -/
theorem growForest_returns {paths : Paths}
    (grows : ∀ entry ∈ paths, ∃ growth, entry.2.growth = (growth, none)) (forest : Forest) :
    ∃ grown, growForest forest paths = .ok grown := by
  induction paths generalizing forest with
  | nil => exact ⟨forest, by rw [growForest]⟩
  | cons entry paths ih =>
      obtain ⟨⟨growth, grown⟩, rest⟩ := List.forall_mem_cons.mp grows
      rw [growForest, grown]
      exact ih rest _

/-- A schema of paths that grow replaces the children; without a schema nothing can fail. -/
theorem schemaGrowth_returns {schema : Option Paths}
    (grows : ∀ paths, schema = some paths → ∀ entry ∈ paths,
      ∃ growth, entry.2.growth = (growth, none)) (absent faulty : Growth) :
    ∃ growth, schemaGrowth absent faulty schema = (growth, none) := by
  cases schema with
  | none => exact ⟨absent, by rw [schemaGrowth]⟩
  | some paths =>
      obtain ⟨forest, grown⟩ := growForest_returns (grows paths rfl) []
      exact ⟨.replace forest, by rw [schemaGrowth, grown]⟩

theorem Descriptor.elementGrowth_returns {element : Descriptor}
    (returns : element ≠ .missing → ∃ growth, element.elementGrowth = (growth, none)) :
    ∃ growth, element.elementGrowth = (growth, none) := by
  cases element with
  | missing => exact ⟨.keep, by rw [Descriptor.elementGrowth]⟩
  | typed => exact returns (by simp)

/-- A complete descriptor grows without a fault, also where it is the element of an array. -/
theorem Descriptor.Complete.grows {descriptor : Descriptor} (complete : descriptor.Complete) :
    (∃ growth, descriptor.growth = (growth, none)) ∧
      ∃ growth, descriptor.elementGrowth = (growth, none) := by
  induction complete with
  | @typed kind options schema element _ _ _ nestedGrows innerGrows =>
      have schemaGrows := schemaGrowth_returns fun paths declared entry member =>
        (nestedGrows paths declared entry member).1
      obtain ⟨fromElement, elementGrown⟩ :=
        Descriptor.elementGrowth_returns fun present => (innerGrows present).2
      constructor
      · rw [Descriptor.growth, elementGrown]
        split
        · exact schemaGrows fromElement fromElement
        · exact schemaGrows .prune .keep
      · rw [Descriptor.elementGrowth]
        exact schemaGrows _ _

/-- Complete paths grow on any forest. -/
theorem CompletePaths.growForest {paths : Paths} (complete : CompletePaths paths)
    (forest : Forest) : ∃ grown, growForest forest paths = .ok grown :=
  growForest_returns (fun entry member => (complete entry member).grows.1) forest

theorem CompletePaths.buildForest {paths : Paths} (complete : CompletePaths paths) :
    ∃ forest, buildForest paths = .ok forest :=
  complete.growForest []

theorem schemaGrowth_of_buildForest {paths : Paths} {forest : Forest}
    (built : buildForest paths = .ok forest) (absent faulty : Growth) :
    schemaGrowth absent faulty (some paths) = (.replace forest, none) := by
  rw [buildForest] at built
  rw [schemaGrowth, built]

namespace Descriptor

variable {kind : Value} {options : Options} {element : Descriptor}

/-- An own schema replaces the children, whatever the element made of them. -/
theorem growth_of_schema {paths : Paths} {forest : Forest}
    (fromElement : ∃ growth, element.elementGrowth = (growth, none))
    (built : buildForest paths = .ok forest) :
    (typed kind options (some paths) element).growth = (.replace forest, none) := by
  obtain ⟨growth, grown⟩ := fromElement
  rw [Descriptor.growth, grown]
  split <;> exact schemaGrowth_of_buildForest built _ _

/-- Without an own schema the children of an array are those of its element. -/
theorem growth_of_element {forest : Forest} (isArray : kind.isText arrayKind = true)
    (grown : element.elementGrowth = (.replace forest, none)) :
    (typed kind options none element).growth = (.replace forest, none) := by
  rw [Descriptor.growth, if_pos isArray, grown]
  simp only [schemaGrowth]

theorem growth_of_no_element :
    (typed kind options none .missing).growth = (.keep, none) ∨
      (typed kind options none .missing).growth = (.prune, none) := by
  cases isArray : kind.isText arrayKind <;>
    simp [Descriptor.growth, isArray, Descriptor.elementGrowth, schemaGrowth]

theorem growth_of_not_array (notArray : kind.isText arrayKind = false) :
    (typed kind options none element).growth = (.prune, none) := by
  simp [Descriptor.growth, notArray, schemaGrowth]

/-- The element of an array replaces the array's children by its expansion. -/
theorem Complete.elementGrowth_eq {schema : Option Paths}
    (complete : (typed kind options schema element).Complete) {arrayOptions : Options}
    {array : Value} : ∃ expansion,
      (typed array arrayOptions none (typed kind options schema element)).expansion =
        .ok expansion ∧
      (typed kind options schema element).elementGrowth = (.replace expansion, none) := by
  cases schema with
  | none => exact ⟨[itemNode kind options], rfl, by rw [Descriptor.elementGrowth, schemaGrowth]⟩
  | some paths =>
      cases complete with
      | typed _ nested _ =>
          obtain ⟨expansion, built⟩ := CompletePaths.buildForest (nested paths rfl)
          refine ⟨expansion, built, ?_⟩
          rw [Descriptor.elementGrowth, schemaGrowth_of_buildForest built]

/-- What a complete descriptor makes of the children of its node. -/
theorem Complete.growth_cases {descriptor : Descriptor} (complete : descriptor.Complete) :
    (descriptor.replaces = true ∧ ∃ expansion, descriptor.expansion = .ok expansion ∧
        descriptor.growth = (.replace expansion, none)) ∨
      (descriptor.replaces = false ∧
        (descriptor.growth = (.keep, none) ∨ descriptor.growth = (.prune, none))) := by
  cases complete with
  | @typed kind options schema element _ nested inner =>
      cases schema with
      | some paths =>
          obtain ⟨expansion, built⟩ := CompletePaths.buildForest (nested paths rfl)
          have fromElement :=
            elementGrowth_returns fun present => Complete.grows (inner present) |>.2
          exact .inl ⟨rfl, expansion, built, growth_of_schema fromElement built⟩
      | none =>
          cases element with
          | missing => exact .inr ⟨rfl, growth_of_no_element⟩
          | typed elementKind elementOptions elementSchema innermost =>
              cases isArray : kind.isText arrayKind with
              | false => exact .inr ⟨isArray, .inr (growth_of_not_array isArray)⟩
              | true =>
                  obtain ⟨expansion, expanded, grown⟩ :=
                    Complete.elementGrowth_eq (inner (by simp))
                  exact .inl ⟨isArray, expansion, expanded, growth_of_element isArray grown⟩

end Descriptor

end EntityDiagram
