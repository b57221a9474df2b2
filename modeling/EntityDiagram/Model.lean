import EntityDiagram.Structure.Forest

/-!
# Entity models

A model is an entity with its structure and its methods. Models are collected by name from a
provider that knows the paths and the methods of each entity.
-/

namespace EntityDiagram

structure EntityModel where
  name : Scalar
  forest : Forest
  instanceMethods : List Value
  staticMethods : List Value
deriving Repr, Inhabited

/-- The names of the methods of an entity: those of instances and those of the entity itself. -/
structure MethodNames where
  instanceMethods : List Value
  staticMethods : List Value
deriving Repr, Inhabited

def methodNamesUnder (entries : Mapping) (key : Text) : Except Fault (List Value) :=
  match Value.lookup? entries key with
  | none => .ok []
  | some value => value.items

def MethodNames.ofValue : Value → Except Fault MethodNames
  | .map entries => do
      let instanceMethods ← methodNamesUnder entries "instanceMethods"
      let staticMethods ← methodNamesUnder entries "staticMethods"
      return ⟨instanceMethods, staticMethods⟩
  | other => .error (.noLookup other.typeName)

/-- A source of schemas; `ε` is what can go wrong there. -/
structure Provider (ε : Type) where
  paths : Scalar → Except ε Paths
  methods : Scalar → Except ε MethodNames

def Provider.model {ε : Type} (provider : Provider ε) (ofFault : Fault → ε) (name : Value) :
    Except ε EntityModel := do
  let key ← name.asKey.mapError ofFault
  let paths ← provider.paths key
  let forest ← (buildForest paths).mapError ofFault
  let methods ← provider.methods key
  return ⟨key, forest, methods.instanceMethods, methods.staticMethods⟩

/-- Collects models in the order of their names; a failure ends the collection after the models
before it. -/
def Provider.collect {ε : Type} (provider : Provider ε) (ofFault : Fault → ε) :
    List Value → List EntityModel × Option ε
  | [] => ([], none)
  | name :: rest =>
      match provider.model ofFault name with
      | .error failure => ([], some failure)
      | .ok model =>
          let (models, failure) := provider.collect ofFault rest
          (model :: models, failure)

end EntityDiagram
