import EntityDiagram.Schema.Kind

/-!
# Declared types

A descriptor is the declared type of one path of a schema. A nested document has a schema of its
own, an ordered list of paths with their descriptors; an array can have an element.
-/

namespace EntityDiagram

/-- The flags of a field and the model that it refers to; a null reference is none. -/
structure Options where
  required : Bool
  unique : Bool
  ref : Value
deriving Repr, Inhabited

/-- No flag set and no reference. -/
def Options.none : Options := ⟨false, false, .null⟩

/-- A reference that does not count as true is dropped. -/
def Options.settle (options : Options) : Options :=
  { options with ref := if options.ref.isTruthy then options.ref else .null }

/-- The declared type of a path. A path without a declared type, and an array without an element,
have the descriptor `missing`. -/
inductive Descriptor where
  | missing
  | typed (kind : Value) (options : Options) (schema : Option (List (Text × Descriptor)))
      (element : Descriptor)
deriving Repr, Inhabited

abbrev Paths := List (Text × Descriptor)

/-- A descriptor that says nothing but the kind. -/
def Descriptor.ofKind (kind : Value) : Descriptor :=
  .typed kind Options.none Option.none .missing

end EntityDiagram
