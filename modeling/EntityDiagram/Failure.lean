import EntityDiagram.Fault
import EntityDiagram.FileSystem.Fault
import EntityDiagram.Schema.Violation
import EntityDiagram.Yaml.Fault

/-!
# Failures

What can go wrong between the input and the images. Problems of the models file and of the
rendering are reported to the user; anything else ends the program.
-/

namespace EntityDiagram

/-- What can be wrong with the models file or with the models asked for. -/
inductive ConversionError where
  | inputNotFound (path : PathName)
  | malformed (problem : Yaml.Problem)
  | emptyDocument
  | notMapping
  | invalid (violations : List Violation)
  | unknownModel (name : Value)
deriving Repr

def ConversionError.message : ConversionError → Text
  | inputNotFound path => "Input file not found: " ++ path.text
  | malformed problem => "Failed to parse YAML: " ++ problem.message
  | emptyDocument => "Empty YAML file provided."
  | notMapping => "Top level YAML structure must be a mapping/object."
  | invalid violations => violationReport violations
  | unknownModel name => "Unknown model: " ++ name.display

/-- Why a diagram has no image. -/
inductive RenderError where
  | rendererNotFound (executable : Text)
  | rejected (detail : Text)
  | exited (code : Int)
  | noOutput
deriving DecidableEq, Repr

def RenderError.message : RenderError → Text
  | rendererNotFound executable =>
      "D2 renderer '" ++ executable ++ "' was not found on PATH. " ++
        "Install it from https://d2lang.com and retry."
  | rejected detail => detail
  | exited code => "d2 exited with code " ++ toString code
  | noOutput => "d2 produced no output"

/-- An option without a value that was needed. -/
inductive MissingValue where
  | input
  | outputDir
  | executable
deriving DecidableEq, Repr

def MissingValue.message : MissingValue → String
  | input => "'list' object has no attribute 'exists'"
  | outputDir => "unsupported operand type(s) for /: 'list' and 'str'"
  | executable => "expected str, bytes or os.PathLike object, not list"

inductive Failure where
  | conversion (error : ConversionError)
  | render (error : RenderError)
  /-- The file is no text. -/
  | undecodable (fault : Text.Utf8Fault)
  | path (fault : PathFault)
  /-- A scalar of the document has no value. -/
  | scalar (fault : Yaml.ScalarFault)
  /-- The document holds itself. Its value has no end, and what becomes of it is left open. -/
  | cyclic
  | fault (fault : Fault)
  | missing (value : MissingValue)
deriving Repr

def Failure.message : Failure → Text
  | conversion error => error.message
  | render error => error.message
  | undecodable malformed => malformed.message
  | path cause => cause.message
  | scalar cause => cause.message
  | cyclic => []
  | fault cause => cause.message
  | missing value => value.message

def Failure.isAbsence : Failure → Bool
  | scalar (.badTruth _) => true
  | fault (.missingKey _) => true
  | _ => false

/-- Whether a failure is reported to the user as an error of the program. -/
def Failure.isReported : Failure → Bool
  | conversion _ => true
  | render _ => true
  | _ => false

end EntityDiagram
