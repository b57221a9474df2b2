import EntityDiagram.Failure
import EntityDiagram.Text.LowerCase

/-!
# The renderer

Diagrams become images by a separate program, which reads the diagram from its standard input and
writes the image to its standard output. The program's words on its error output are the reason
when it fails.
-/

namespace EntityDiagram

open Decimal (Double Layout)

/-- How an image is to look. Any value may be given for an option. -/
structure RenderOptions where
  layout : Value
  sketch : Value
  forceAppendix : Value
  scale : Value
  center : Value
  pad : Value
deriving Repr

namespace RenderOptions

/-- The options that are used unless others are given. -/
def standard : RenderOptions where
  layout := .text "elk"
  sketch := .bool false
  forceAppendix := .bool true
  scale := .scalar (.int 1)
  center := .bool true
  pad := .scalar (.int 20)

/-- A scale has six significant digits, without a point for whole numbers, and an exponent when it
is below `10 ^ -4` or not below `10 ^ 6`. -/
def scaleLayout : Layout := ⟨some 6, -4, 6, false⟩

/-- A whole number as a scale, if it is in the range of floating-point numbers. -/
def wholeScale (n : Int) : Except Fault String :=
  match (Double.ofInt n).magnitude with
  | .infinite => .error .beyondFloat
  | _ => .ok (scaleLayout.render (Double.ofInt n))

def scaleText : Value → Except Fault String
  | .scalar (.bool b) => wholeScale (if b then 1 else 0)
  | .scalar (.int n) => wholeScale n
  | .scalar (.float x) => .ok (scaleLayout.render x)
  | .scalar (.undefined origin) => .ok (Scalar.undefined origin).literal
  | .scalar (.text _) => .error .textForNumber
  | other => .error (.valueForNumber other.typeName)

def flags (options : RenderOptions) : Except Fault (List Text) := do
  let scale ← scaleText options.scale
  return ["--layout=" ++ options.layout.display,
    "--sketch=" ++ Text.lower options.sketch.display,
    "--scale=" ++ Text.ofString scale,
    "--pad=" ++ options.pad.display] ++
    (if options.forceAppendix.isTruthy then [Text.ofString "--force-appendix"] else []) ++
    (if options.center.isTruthy then [Text.ofString "--center"] else [])

/-- The arguments of the renderer: it reads from its standard input and writes to its standard
output. -/
def arguments (options : RenderOptions) : Except Fault (List Text) := do
  let flags ← options.flags
  return flags ++ [Text.ofString "-", Text.ofString "-"]

end RenderOptions

/-- What a program leaves behind. The exit code is negative after a signal. -/
structure Completion where
  stdout : List UInt8
  stderr : List UInt8
  exitCode : Int
deriving Repr

/-- A program, by its arguments and its standard input. -/
abbrev Program := List (List UInt8) → List UInt8 → Completion

/-- A renderer: the name of the program, and its options. -/
structure Renderer where
  executable : Text
  options : RenderOptions
deriving Repr

namespace Renderer

/-- The command line of a renderer, whose program has been found or not. -/
def command (renderer : Renderer) (found : Bool) : Except Failure (List Text) := do
  if !found then throw (.render (.rendererNotFound renderer.executable))
  let arguments ← renderer.options.arguments.mapError .fault
  return renderer.executable :: arguments

/-- The image that a finished program leaves. -/
def imageOf (completion : Completion) : Except RenderError (List UInt8) :=
  if completion.exitCode != 0 then
    match Text.trimBlanks (Text.utf8DecodeLossy completion.stderr) with
    | [] => .error (.exited completion.exitCode)
    | detail => .error (.rejected (Text.ofChars detail))
  else if completion.stdout.isEmpty then .error .noOutput
  else .ok completion.stdout

def image (renderer : Renderer) (program : Option Program) (diagram : Text) :
    Except Failure (List UInt8) := do
  let command ← renderer.command program.isSome
  let arguments ← (command.mapM systemBytes).mapError .path
  let input ← (Text.utf8Encode diagram).mapError fun fault => .fault (.surrogates fault)
  match program with
  | some program => (imageOf (program (arguments.drop 1) input)).mapError .render
  | none => throw (.render (.rendererNotFound renderer.executable))

end Renderer

end EntityDiagram
