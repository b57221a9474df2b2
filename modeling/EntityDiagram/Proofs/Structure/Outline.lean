import EntityDiagram.Proofs.Document.Entries
import EntityDiagram.Proofs.Structure.Kept
import EntityDiagram.Proofs.Structure.Siblings
import EntityDiagram.Structure.Outline

/-!
# Outlines and grown forests

The outline of a descriptor is read off its nested schemas, while its forest is grown by inserting
one path after another into nodes that are created on demand.  The main statement is
`outline_eq_buildForest`: both give the same node if the names on each level differ and have no
points, and if no array has two schemas to choose from or none.
-/

namespace EntityDiagram

/-- The schema that a descriptor has itself. -/
def Descriptor.schema? : Descriptor → Option Paths
  | .missing => none
  | .typed _ _ schema _ => schema

/-- The paths of a schema as names: without points and different from each other. -/
structure PlainNames (paths : Paths) : Prop where
  pointless : ∀ entry ∈ paths, CodePoint.char '.' ∉ entry.1
  distinct : (paths.map Prod.fst).Nodup

/-- A descriptor that is there and has one schema at most to fill the children of its node, an array
exactly one: its own or that of its element.  The names of this schema are plain, and the same holds
for all descriptors in it. -/
inductive Descriptor.Plain : Descriptor → Prop
  | mk {kind : Value} {options : Options} {schema : Option Paths} {element : Descriptor}
      (choice : kind = .text arrayKind → (schema = none ↔ element.schema? ≠ none))
      (names : ∀ paths, (Descriptor.typed kind options schema element).filling? = some paths →
        PlainNames paths)
      (nested : ∀ paths, (Descriptor.typed kind options schema element).filling? = some paths →
        ∀ entry ∈ paths, Plain entry.2) :
      Plain (.typed kind options schema element)

/-- The node that a descriptor makes of a fresh one is its outline. -/
def Descriptor.GrowsOutline (descriptor : Descriptor) : Prop :=
  ∃ growth, descriptor.growth = (growth, none) ∧
    ∀ path, outline path descriptor = some (descriptor.change growth (Node.fresh path))

/-- A schema of plain names grows one node after another, each of them its outline. -/
theorem PlainNames.buildForest {paths : Paths} (names : PlainNames paths)
    (grow : ∀ entry ∈ paths, entry.2.GrowsOutline) :
    buildForest paths = .ok (outlinePaths paths) := by
  induction paths with
  | nil => rw [EntityDiagram.buildForest, growForest, outlinePaths]
  | cons entry paths ih =>
      obtain ⟨pointless, pathsPointless⟩ := List.forall_mem_cons.mp names.pointless
      obtain ⟨different, distinct⟩ := List.nodup_cons.mp names.distinct
      obtain ⟨⟨growth, grows, outlined⟩, pathsGrow⟩ := List.forall_mem_cons.mp grow
      have apart : ∀ first ∈ [entry], ∀ other ∈ paths, first.1.root ≠ other.1.root := by
        intro first isEntry other member same
        rw [List.mem_singleton.mp isEntry, root_of_pointless pointless,
          root_of_pointless (pathsPointless other member)] at same
        exact different (same ▸ List.mem_map_of_mem member)
      rw [← List.singleton_append, buildForest_append apart, buildForest_singleton pointless grows,
        bind_ok, ih ⟨pathsPointless, distinct⟩ pathsGrow, List.singleton_append, outlinePaths,
        outlined]
      rfl

section

variable {kind : Value} {options : Options} {schema : Option Paths} {element : Descriptor}

/-- An own schema fills the children before that of an element. -/
theorem Descriptor.filling?_eq :
    (typed kind options schema element).filling? =
      (schema <|> if kind.isText arrayKind then element.schema? else none) := by
  match schema, element with
  | some paths, _ => rfl
  | none, .missing | none, .typed _ _ none _ => simp [filling?, schema?]
  | none, .typed _ _ (some paths) _ => rfl

theorem outlineSchema_eq (schema : Option Paths) :
    outlineSchema schema = schema.map outlinePaths := by
  cases schema <;> rw [outlineSchema] <;> rfl

theorem outlineElement_eq (element : Descriptor) :
    outlineElement element = element.schema?.map outlinePaths := by
  cases element with
  | missing => rw [outlineElement]; rfl
  | typed kind options schema element => rw [outlineElement, outlineSchema_eq]; rfl

/-- The outline looks at the element first, which is the same where there is one schema. -/
theorem outline_eq_of_choice
    (choice : kind = .text arrayKind → (schema = none ↔ element.schema? ≠ none)) (path : Text) :
    outline path (.typed kind options schema element) =
      some ⟨path, kind, options.settle,
        (Descriptor.typed kind options schema element).filling?.map outlinePaths⟩ := by
  rw [outline, outlineSchema_eq, outlineElement_eq, Descriptor.filling?_eq]
  cases isArray : kind.isText arrayKind with
  | false => cases schema <;> simp
  | true =>
      -- Only here the two builders would differ: where an array has both schemas, or none.
      have oneSchema := choice (Value.isText_iff.mp isArray)
      cases own : schema with
      | none => simp
      | some paths =>
          have noElement : element.schema? = none := by
            simpa [own] using oneSchema
          simp [noElement]

theorem Descriptor.elementGrowth_of_no_schema {element : Descriptor}
    (noSchema : element.schema? = none) : ∃ growth, element.elementGrowth = (growth, none) := by
  cases element with
  | missing => exact ⟨.keep, by rw [elementGrowth]⟩
  | typed kind options schema element =>
      cases schema with
      | none => exact ⟨.replace [itemNode kind options], by rw [elementGrowth, schemaGrowth]⟩
      | some paths => cases noSchema

/-- The case split follows the two choices of the growth: whether the node is an array, and whether
there is an own schema. -/
theorem Descriptor.Plain.growth_eq
    (choice : kind = .text arrayKind → (schema = none ↔ element.schema? ≠ none))
    (built : ∀ paths, (typed kind options schema element).filling? = some paths →
      buildForest paths = .ok (outlinePaths paths)) :
    (typed kind options schema element).growth =
      (match (typed kind options schema element).filling? with
        | some paths => .replace (outlinePaths paths)
        | none => .prune, none) := by
  cases isArray : kind.isText arrayKind with
  | false =>
      cases schema with
      | none => rw [growth_of_not_array isArray, filling?_eq, isArray]; rfl
      | some paths =>
          have own := schemaGrowth_of_buildForest (built paths rfl) .prune .keep
          simp [Descriptor.growth, isArray, own, filling?]
  | true =>
      have oneSchema := choice (Value.isText_iff.mp isArray)
      cases schema with
      | none =>
          obtain ⟨paths, ofElement⟩ := Option.ne_none_iff_exists'.mp (oneSchema.mp rfl)
          have fills : (typed kind options none element).filling? = some paths := by
            rw [filling?_eq, if_pos isArray, ofElement]
            rfl
          cases element with
          | missing => cases ofElement
          | typed elementKind elementOptions elementSchema innermost =>
              obtain rfl : elementSchema = some paths := ofElement
              have grown : (typed elementKind elementOptions (some paths) innermost).elementGrowth =
                  (.replace (outlinePaths paths), none) := by
                rw [elementGrowth, schemaGrowth_of_buildForest (built paths fills)]
              rw [growth_of_element isArray grown, fills]
      | some paths =>
          have noElement : element.schema? = none := by
            simpa using oneSchema
          exact growth_of_schema (elementGrowth_of_no_schema noElement) (built paths rfl)

end

/-- The induction is on the nested schemas that fill children; no other one is looked at. -/
theorem Descriptor.Plain.growsOutline {descriptor : Descriptor} (plain : descriptor.Plain) :
    descriptor.GrowsOutline := by
  induction plain with
  | @mk kind options schema element choice names nested ih =>
      have built : ∀ paths, (typed kind options schema element).filling? = some paths →
          buildForest paths = .ok (outlinePaths paths) :=
        fun paths fills => (names paths fills).buildForest (ih paths fills)
      refine ⟨_, growth_eq choice built, fun path => ?_⟩
      rw [outline_eq_of_choice choice]
      cases (typed kind options schema element).filling? <;> rfl

/-- The outline of a descriptor is the one node that its path grows. -/
theorem outline_eq_buildForest {path : Text} (pointless : CodePoint.char '.' ∉ path)
    {descriptor : Descriptor} (plain : descriptor.Plain) :
    ∃ node, outline path descriptor = some node ∧
      buildForest [(path, descriptor)] = .ok [node] := by
  obtain ⟨growth, grows, outlined⟩ := plain.growsOutline
  exact ⟨_, outlined path, buildForest_singleton pointless grows⟩

/-- A kind is plain unless it is that of arrays. -/
theorem Descriptor.Plain.ofKind {kind : Text} (notArray : kind ≠ arrayKind) :
    (Descriptor.ofKind (.text kind)).Plain := by
  refine .mk (fun isArray => ?_) ?_ ?_
  · cases isArray
    exact (notArray rfl).elim
  · rintro paths ⟨⟩
  · rintro paths ⟨⟩

/-- An array of documents, in which another array has a schema of its own beside a plain element. -/
def commentsDescriptor : Descriptor :=
  .typed (.text arrayKind) Options.none none
    (.typed (.text embeddedKind) Options.none
      (some [("text", .ofKind (.text "String")),
        ("votes", .typed (.text arrayKind) ⟨true, false, .text "Vote"⟩ (some [])
          (.ofKind (.text "Number")))])
      .missing)

theorem commentsDescriptor_outlined :
    CodePoint.char '.' ∉ Text.ofString "comments" ∧ commentsDescriptor.Plain ∧
      ∃ node, outline "comments" commentsDescriptor = some node ∧
        buildForest [("comments", commentsDescriptor)] = .ok [node] := by
  have pointless : CodePoint.char '.' ∉ Text.ofString "comments" := by decide
  have plain : commentsDescriptor.Plain := by
    refine .mk (by simp [Descriptor.schema?]) ?_ ?_
    · rintro paths ⟨⟩
      exact ⟨by decide, by decide⟩
    · rintro paths ⟨⟩ entry member
      simp only [List.mem_cons, List.not_mem_nil, or_false] at member
      rcases member with rfl | rfl
      · exact .ofKind (by decide)
      · refine .mk (by simp [Descriptor.schema?, Descriptor.ofKind]) ?_ ?_
        · rintro paths ⟨⟩
          exact ⟨by simp, by simp⟩
        · rintro paths ⟨⟩ entry member
          cases member
  exact ⟨pointless, plain, outline_eq_buildForest pointless plain⟩

end EntityDiagram
