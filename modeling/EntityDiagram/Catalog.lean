import EntityDiagram.Failure
import EntityDiagram.Model
import EntityDiagram.Schema.Fields
import EntityDiagram.Schema.Validation
import EntityDiagram.Text.File
import EntityDiagram.Yaml.Document

/-!
# The catalog of models

A catalog serves the models of a file. It reads the file when it is told to, or when it is first
asked for something; a file that cannot be read leaves it as it was.
-/

namespace EntityDiagram

inductive Found where
  | nothing
  | file (bytes : List UInt8)
  | refused (fault : PathFault)
deriving DecidableEq, Repr

/-- The document of a file holds itself: an alias stands inside the node of its own anchor. -/
def Found.HoldsItself : Found → Prop
  | .file bytes => Yaml.load (Text.decodeFile bytes) = .error .cyclic
  | _ => False

instance (found : Found) : Decidable found.HoldsItself :=
  match found with
  | .nothing | .refused _ => isFalse id
  | .file bytes =>
      match loaded : Yaml.load (Text.decodeFile bytes) with
      | .error .cyclic => isTrue loaded
      | .error (.problem _) | .error (.scalar _) | .error (.undecodable _) | .ok _ =>
          isFalse fun cyclic => by cases loaded.symm.trans cyclic

def parseDocument (text : Text.FileText) : Except Failure Mapping :=
  match Yaml.load text with
  | .error (.problem problem) => .error (.conversion (.malformed problem))
  | .error (.scalar fault) => .error (.scalar fault)
  | .error (.undecodable fault) => .error (.undecodable fault)
  | .error .cyclic => .error .cyclic
  | .ok none => .error (.conversion .emptyDocument)
  | .ok (some .null) => .error (.conversion .emptyDocument)
  | .ok (some (.map entries)) => .ok entries
  | .ok (some _) => .error (.conversion .notMapping)

def readDocument (path : PathName) : Found → Except Failure Mapping
  | .nothing => .error (.conversion (.inputNotFound path))
  | .refused fault => .error (.path fault)
  | .file bytes => parseDocument (Text.decodeFile bytes)

/-- Accepts a document that violates nothing, if it can be checked. -/
def validate (document : Value) : Except Failure Unit :=
  let violations := checkDocument document
  if !canReport document violations then .error (.fault .tooManyDigits)
  else if violations.isEmpty then .ok ()
  else .error (.conversion (.invalid violations))

def modelsOf (document : Mapping) : Mapping :=
  match Value.lookup? document "models" with
  | some (.map models) => models
  | _ => []

def validModels (document : Mapping) : Except Failure Mapping := do
  validate (.map document)
  return modelsOf document

def readModels (path : PathName) (found : Found) : Except Failure Mapping := do
  validModels (← readDocument path found)

/-- The failure of asking for a model that is not there. It says the name, if that can be
written. -/
def missingModel (name : Value) : Failure :=
  if name.isWritable then .conversion (.unknownModel name) else .fault .tooManyDigits

/-- The entries of the model of a name; a model that says nothing has none. -/
def modelEntries (models : Mapping) (name : Scalar) : Except Failure Mapping :=
  match Mapping.get? models name with
  | some (.map entries) => .ok entries
  | some _ => .ok []
  | none => .error (missingModel (.scalar name))

/-- The value of a key of a model, if it counts as true. -/
def filledEntry (entries : Mapping) (key : Text) : Option Value :=
  (Value.lookup? entries key).filter Value.isTruthy

def pathsOf (models : Mapping) (name : Scalar) : Except Failure Paths := do
  let entries ← modelEntries models name
  match filledEntry entries "fields" with
  | some fields => (flattenFields "" fields).mapError .fault
  | none => return []

def methodNames (entries : Mapping) (key : Text) : Except Failure (List Value) :=
  match filledEntry entries key with
  | some names => names.items.mapError .fault
  | none => .ok []

def methodsOf (models : Mapping) (name : Scalar) : Except Failure MethodNames := do
  let entries ← modelEntries models name
  return ⟨← methodNames entries "methods", ← methodNames entries "statics"⟩

def providerOf (models : Mapping) : Provider Failure where
  paths := pathsOf models
  methods := methodsOf models

/-- The names asked for, or every name when none is. -/
def namesOr (models : Mapping) (names : List Value) : List Value :=
  if names.isEmpty then models.map fun entry => .scalar entry.1 else names

def collectModels (models : Mapping) (names : List Value) : List EntityModel × Option Failure :=
  (providerOf models).collect .fault names

def collectAll (models : Mapping) (names : List Value) : Except Failure (List EntityModel) :=
  match collectModels models names with
  | (_, some failure) => .error failure
  | (collected, none) => .ok collected

/-- The models that have been loaded from a file, if any have. -/
structure Catalog where
  path : PathName
  models : Option Mapping
deriving Repr

namespace Catalog

def ofPath (path : PathName) : Catalog := ⟨path, none⟩

/-- Reads the file, and keeps what was loaded before when that fails. -/
def load (catalog : Catalog) (found : Found) : Except Failure Mapping × Catalog :=
  match readModels catalog.path found with
  | .ok models => (.ok models, { catalog with models := some models })
  | .error failure => (.error failure, catalog)

/-- The models, loaded now if they have not been. -/
def ensure (catalog : Catalog) (found : Found) : Except Failure Mapping × Catalog :=
  match catalog.models with
  | some models => (.ok models, catalog)
  | none => catalog.load found

def ask {α : Type} (catalog : Catalog) (found : Found) (question : Mapping → Except Failure α) :
    Except Failure α × Catalog :=
  match catalog.ensure found with
  | (.ok models, catalog) => (question models, catalog)
  | (.error failure, catalog) => (.error failure, catalog)

/-- Asks something about the model of a name. When the models have to be loaded for that and a word
of the file is looked up in vain, the name is said to be missing. -/
def askAbout {α : Type} (catalog : Catalog) (found : Found) (name : Value)
    (question : Mapping → Except Failure α) : Except Failure α × Catalog :=
  match catalog.ensure found with
  | (.ok models, catalog) => (question models, catalog)
  | (.error failure, catalog) =>
      (.error (if failure.isAbsence then missingModel name else failure), catalog)

def entityNames (catalog : Catalog) (found : Found) : Except Failure (List Scalar) × Catalog :=
  catalog.ask found fun models => .ok (models.map Prod.fst)

def paths (catalog : Catalog) (found : Found) (name : Value) : Except Failure Paths × Catalog :=
  catalog.askAbout found name fun models => do pathsOf models (← name.asKey.mapError .fault)

def methods (catalog : Catalog) (found : Found) (name : Value) :
    Except Failure MethodNames × Catalog :=
  catalog.askAbout found name fun models => do methodsOf models (← name.asKey.mapError .fault)

/-- Collects models by name; to collect none, nothing has to be loaded. -/
def collect (catalog : Catalog) (found : Found) (names : List Value) :
    Except Failure (List EntityModel) × Catalog :=
  match names with
  | [] => (.ok [], catalog)
  | name :: _ => catalog.askAbout found name fun models => collectAll models names

end Catalog

end EntityDiagram
