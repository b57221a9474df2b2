import EntityDiagram.Proofs.Structure.Declared

/-!
# Declared paths that are kept

Every path of a schema declares a node, and so do the paths of the schemas that are nested in its
descriptors.  Not all of these nodes are there in the end: one schema at most fills the children
of a node, and a later path can replace them.  The main statement is `Kept.present`: a declared
node is there if each schema on its way fills the children of its node and no later path decides
on its address.
-/

namespace EntityDiagram

open Text (segments)

/-- A schema in the element of an array, with the `item` segments of the arrays that are elements
on the way to it. -/
inductive Descriptor.ElementNests : Descriptor → List Text → Paths → Prop
  | schema {kind : Value} {options : Options} {paths : Paths} {element : Descriptor} :
      ElementNests (.typed kind options (some paths) element) [] paths
  | item {kind : Value} {options : Options} {schema : Option Paths} {element : Descriptor}
      {front : List Text} {paths : Paths} (inner : element.ElementNests front paths) :
      ElementNests (.typed kind options schema element) ("item" :: front) paths

/-- A schema that is written in a descriptor or in the element of an array. -/
inductive Descriptor.Nests : Descriptor → List Text → Paths → Prop
  | own {kind : Value} {options : Options} {paths : Paths} {element : Descriptor} :
      Nests (.typed kind options (some paths) element) [] paths
  | element {kind : Value} {options : Options} {schema : Option Paths} {element : Descriptor}
      {front : List Text} {paths : Paths} (inner : element.ElementNests front paths) :
      Nests (.typed kind options schema element) front paths

/-- An address that a schema declares, by one of its paths or by those of a nested schema. -/
inductive Declares : Paths → List Text → Prop
  | path {paths : Paths} {entry : Text × Descriptor} (member : entry ∈ paths) :
      Declares paths (segments entry.1)
  | nested {paths inner : Paths} {entry : Text × Descriptor} {front rest : List Text}
      (member : entry ∈ paths) (nests : entry.2.Nests front inner) (below : Declares inner rest) :
      Declares paths (segments entry.1 ++ front ++ rest)

/-- The schema that fills the children of a descriptor's node: its own one, or else that of the
element of an array. -/
def Descriptor.filling? : Descriptor → Option Paths
  | .typed _ _ (some paths) _ => some paths
  | .typed kind _ none (.typed _ _ (some paths) _) =>
      if kind.isText arrayKind then some paths else none
  | _ => none

/-- A declared address that no later path takes away. -/
inductive Kept : Paths → List Text → Prop
  | path {before later : Paths} {entry : Text × Descriptor}
      (undecided : ∀ other ∈ later, ¬ Governs (segments entry.1) other) :
      Kept (before ++ entry :: later) (segments entry.1)
  | nested {before later inner : Paths} {entry : Text × Descriptor} {rest : List Text}
      (fills : entry.2.filling? = some inner) (below : Kept inner rest)
      (undecided : ∀ other ∈ later, ¬ Governs (segments entry.1 ++ rest) other) :
      Kept (before ++ entry :: later) (segments entry.1 ++ rest)

namespace Descriptor

variable {descriptor : Descriptor} {inner : Paths}

theorem filling?_cases (fills : descriptor.filling? = some inner) :
    (∃ kind options element, descriptor = .typed kind options (some inner) element) ∨
      ∃ kind options elementKind elementOptions innermost, kind.isText arrayKind = true ∧
        descriptor =
          .typed kind options none (.typed elementKind elementOptions (some inner) innermost) := by
  match descriptor with
  | .typed kind options (some paths) element =>
      cases fills
      exact .inl ⟨kind, options, element, rfl⟩
  | .typed kind options none (.typed elementKind elementOptions (some paths) innermost) =>
      rw [filling?, Option.ite_none_right_eq_some] at fills
      obtain ⟨isArray, same⟩ := fills
      cases same
      exact .inr ⟨kind, options, elementKind, elementOptions, innermost, isArray, rfl⟩
  | .typed _ _ none (.typed _ _ none _) | .typed _ _ none .missing | .missing => cases fills

theorem nests_of_filling? (fills : descriptor.filling? = some inner) :
    descriptor.Nests [] inner := by
  rcases filling?_cases fills with ⟨kind, options, element, rfl⟩ | ⟨_, _, _, _, _, -, rfl⟩
  · exact .own
  · exact .element .schema

/-- A schema that fills the children is what they are replaced by. -/
theorem expansion_of_filling? (fills : descriptor.filling? = some inner) :
    descriptor.replaces = true ∧ descriptor.expansion = buildForest inner := by
  rcases filling?_cases fills with ⟨kind, options, element, rfl⟩ | ⟨_, _, _, _, _, isArray, rfl⟩
  · exact ⟨rfl, rfl⟩
  · exact ⟨isArray, rfl⟩

theorem Complete.filling? (complete : descriptor.Complete)
    (fills : descriptor.filling? = some inner) : CompletePaths inner := by
  rcases filling?_cases fills with ⟨kind, options, element, rfl⟩ | ⟨_, _, _, _, _, -, rfl⟩
  · cases complete with
    | typed _ nested _ => exact nested inner rfl
  · cases complete with
    | typed _ _ elementComplete =>
        cases elementComplete (by simp) with
        | typed _ nested _ => exact nested inner rfl

end Descriptor

namespace Kept

variable {paths : Paths} {address : List Text}

theorem declares (kept : Kept paths address) : Declares paths address := by
  induction kept with
  | path undecided => exact .path (by simp)
  | nested fills _ _ below =>
      rw [← List.append_nil (segments _)]
      exact .nested (by simp) (Descriptor.nests_of_filling? fills) below

theorem nonempty (kept : Kept paths address) : address ≠ [] := by
  cases kept <;> simp [segments_ne_nil]

/-- A kept address is one of a node.  The induction follows the schemas that fill children: below a
path that fills them the node is in its expansion, and the later paths leave it there. -/
theorem present (kept : Kept paths address) (complete : CompletePaths paths) {forest : Forest}
    (built : buildForest paths = .ok forest) : (forest.typeAt? address).isSome = true := by
  induction kept generalizing forest with
  | @path before later entry undecided =>
      have notGoverned : ∀ other ∈ entry :: later, ¬ Governs (segments entry.1) other := by
        refine List.forall_mem_cons.mpr ⟨?_, undecided⟩
        rintro ⟨-, -, different⟩
        exact different rfl
      obtain ⟨middle, -, found⟩ :=
        typeAt?_buildForest_append complete (segments_ne_nil entry.1) notGoverned built
      rw [found, (settles_foldl _ _ _).present]
      exact .inl ⟨entry, List.mem_cons_self, List.prefix_refl _⟩
  | @nested before later inner entry rest fills below undecided ih =>
      obtain ⟨replaces, expands⟩ := Descriptor.expansion_of_filling? fills
      have governs : Governs (segments entry.1 ++ rest) entry := by
        refine ⟨replaces, List.prefix_append _ _, ?_⟩
        simpa using below.nonempty
      obtain ⟨expansion, expanded, found⟩ :=
        typeAt?_buildForest_of_governs complete governs undecided built
      rw [List.drop_left] at found
      have entryComplete : entry.2.Complete := complete entry (by simp)
      rw [found, (settles_foldl _ _ _).present]
      exact .inr (ih (entryComplete.filling? fills) (expands.symm.trans expanded))

end Kept

end EntityDiagram
