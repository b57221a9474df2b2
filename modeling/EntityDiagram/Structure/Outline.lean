import EntityDiagram.Structure.Node

/-!
# The outline of a descriptor

The node of a descriptor can also be read off its nested schemas directly: an array of documents
is outlined by the schema of its element, anything else by its own schema, and paths are kept as
they are written.
-/

namespace EntityDiagram

mutual

/-- The node of a path, if it has a declared type. -/
def outline (path : Text) : Descriptor → Option Node
  | .missing => none
  | .typed kind options schema element =>
      let fromElement := if kind.isText arrayKind then outlineElement element else none
      let fromSchema := outlineSchema schema
      some ⟨path, kind, options.settle, fromElement <|> fromSchema⟩

def outlineElement : Descriptor → Option Forest
  | .missing => none
  | .typed _ _ schema _ => outlineSchema schema

/-- The nodes of an optional schema. -/
def outlineSchema : Option (List (Text × Descriptor)) → Option Forest
  | none => none
  | some paths => some (outlinePaths paths)

def outlinePaths : List (Text × Descriptor) → Forest
  | [] => []
  | (path, descriptor) :: rest =>
      match outline path descriptor with
      | some node => node :: outlinePaths rest
      | none => outlinePaths rest

end

end EntityDiagram
