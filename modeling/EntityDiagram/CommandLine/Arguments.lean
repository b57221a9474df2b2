import EntityDiagram.CommandLine.Help
import EntityDiagram.CommandLine.Request
import EntityDiagram.Text.DecimalDigit
import EntityDiagram.Text.Quoted

/-!
# Reading the arguments

First every argument in front of a double dash is taken for an option or for a value; then the
options are carried out in order. A long option may be shortened as long as one option is meant.
Its value follows an equals sign or is the next argument, which must not look like an option.
-/

namespace EntityDiagram.CommandLine

/-- What an option sets or does. -/
inductive Setting where
  | help
  | input
  | outputDir
  | entity
  | randomNames
  | emitSource
  | executable
  | debug
deriving DecidableEq, Repr

def spellings : List (Text × Setting) :=
  [("-h", .help), ("--help", .help), ("--input", .input), ("--output-dir", .outputDir),
    ("--entity", .entity), ("--random-names", .randomNames), ("--emit-source", .emitSource),
    ("--d2-bin", .executable), ("--debug", .debug)]

def Setting.takesValue : Setting → Bool
  | input | outputDir | entity | executable => true
  | _ => false

def Setting.name (setting : Setting) : Text :=
  Text.joinWith "/" ((spellings.filter fun entry => entry.2 = setting).map Prod.fst)

/-- How the program ends when it does not run: a code and what it writes. -/
structure Exit where
  code : Nat
  stdout : Text
  stderr : Text
deriving DecidableEq, Repr

def Exit.help : Exit := ⟨0, CommandLine.help, []⟩

def Exit.mistake (message : Text) : Exit :=
  ⟨2, [], usage ++ Text.ofString programName ++ ": error: " ++ message ++ "\n"⟩

def Exit.misuse (setting : Setting) (message : Text) : Exit :=
  Exit.mistake ("argument " ++ setting.name ++ ": " ++ message)

/-- An option that has no value was given one. -/
def Exit.surplusValue (setting : Setting) (value : Text) : Exit :=
  Exit.misuse setting ("ignored explicit argument " ++ Text.quoted value)

inductive Reading where
  | value
  | divider
  | unknownOption
  | option (setting : Setting) (short : Bool) (given : Option Text)
deriving DecidableEq, Repr

/-- The argument behind which there are only values. -/
def dividerText : Text := "--"

def splitEquals (text : Text) : Text × Option Text :=
  match text.dropWhile (· != CodePoint.char '=') with
  | [] => (text, none)
  | _ :: behind => (text.takeWhile (· != CodePoint.char '='), some behind)

def spelled? (spelling : Text) : Option Setting := spellings.lookup spelling

/-- The options that a shortened or joined spelling may mean, with their values. -/
def meanings (argument : Text) : List (Text × Reading) :=
  match argument with
  | .char '-' :: .char '-' :: _ =>
      let (start, given) := splitEquals argument
      (spellings.filter fun entry => start.isPrefixOf entry.1).map fun entry =>
        (entry.1, .option entry.2 false given)
  | .char '-' :: letter :: joined =>
      (spellings.filter fun entry => entry.1 == [.char '-', letter]).map fun entry =>
        (entry.1, .option entry.2 true (some joined))
  | _ => []

/-- Whether a text is a negative number, which is a value and no option. A line feed at its end is
overlooked. -/
def isNegativeNumber (argument : Text) : Bool :=
  let isDigit (c : CodePoint) : Bool := c.isIn fun c => (Text.digitValue? c).isSome
  let text := if argument.getLast? == some (.char '\n') then argument.dropLast else argument
  match text with
  | .char '-' :: number =>
      let behind := number.dropWhile isDigit
      match behind with
      | [] => !number.isEmpty
      | .char '.' :: fraction => !fraction.isEmpty && fraction.all isDigit
      | _ => false
  | _ => false

/-- What an argument is taken for that is no option as it stands. -/
def readLoosely (argument : Text) : Except Exit Reading :=
  match meanings argument with
  | [meaning] => .ok meaning.2
  | [] =>
      if isNegativeNumber argument || argument.contains ' ' then .ok .value
      else .ok .unknownOption
  | several =>
      .error (.mistake ("ambiguous option: " ++ argument ++ " could match " ++
        Text.joinWith ", " (several.map Prod.fst)))

def isShort (spelling : Text) : Bool := !dividerText.isPrefixOf spelling

def readArgument (argument : Text) : Except Exit Reading :=
  match spelled? argument with
  | some setting => .ok (.option setting (isShort argument) none)
  | none =>
      if argument.head? != some (.char '-') || argument.length == 1 then .ok .value
      else
        let (spelling, given) := splitEquals argument
        match given, spelled? spelling with
        | some value, some setting => .ok (.option setting (isShort spelling) (some value))
        | _, _ => readLoosely argument

/-- What each argument is taken for. Behind a double dash there are only values. -/
def readArguments : List Text → Except Exit (List (Text × Reading))
  | [] => .ok []
  | argument :: rest =>
      if argument = dividerText then
        .ok ((argument, .divider) :: rest.map fun value => (value, .value))
      else do
        let reading ← readArgument argument
        return (argument, reading) :: (← readArguments rest)

structure Progress where
  request : Request
  hasInput : Bool
  unrecognized : List Text
deriving Repr

def Progress.start : Progress := ⟨Request.ofInput (PathName.ofText []), false, []⟩

/-- The value of an option; a double dash leaves it without one. -/
def optionValue (value : Text) : Option Text :=
  if value = dividerText then none else some value

def Progress.assign (progress : Progress) (setting : Setting) (value : Text) : Progress :=
  let request := progress.request
  let given := optionValue value
  match setting with
  | .input =>
      { progress with
        request := { request with input := given.map PathName.ofText }, hasInput := true }
  | .outputDir =>
      { progress with request := { request with outputDir := given.map PathName.ofText } }
  | .entity =>
      { progress with
        request := { request with entities := request.entities ++ [requestedName given] } }
  | .executable => { progress with request := { request with executable := given } }
  | _ => progress

/-- Carries out an option without a value; the help ends the program. -/
def Progress.switch (progress : Progress) (setting : Setting) : Except Exit Progress :=
  let request := progress.request
  match setting with
  | .help => .error .help
  | .randomNames => .ok { progress with request := { request with randomNames := true } }
  | .emitSource => .ok { progress with request := { request with emitSource := true } }
  | .debug => .ok { progress with request := { request with debug := true } }
  | _ => .ok progress

/-- Carries out an option without a value that was given one. A short option may be followed by
more short options, of which there is only the help. -/
def surplus (setting : Setting) (short : Bool) (given : Text) : Exit :=
  if short then
    match given.dropWhile (· == CodePoint.char 'h') with
    | [] => if given.isEmpty then .surplusValue setting given else .help
    | rest => .surplusValue setting rest
  else .surplusValue setting given

def carryOut (progress : Progress) : List (Text × Reading) → Except Exit Progress
  | [] => .ok progress
  | (argument, reading) :: rest =>
      match reading with
      | .option setting short given =>
          if setting.takesValue then
            match given, rest with
            | some value, rest => carryOut (progress.assign setting value) rest
            | none, (value, .value) :: rest => carryOut (progress.assign setting value) rest
            | none, _ => .error (.misuse setting "expected one argument")
          else
            match given with
            | some value => .error (surplus setting short value)
            | none =>
                match progress.switch setting with
                | .ok next => carryOut next rest
                | .error exit => .error exit
      | _ =>
          carryOut { progress with unrecognized := progress.unrecognized ++ [argument] } rest

/-- What the arguments ask for, or how the program ends instead. -/
def parseArguments (arguments : List Text) : Except Exit Request := do
  let progress ← carryOut Progress.start (← readArguments arguments)
  if !progress.hasInput then
    .error (.mistake ("the following arguments are required: " ++ Setting.input.name))
  else if progress.unrecognized.isEmpty then return progress.request
  else
    .error (.mistake ("unrecognized arguments: " ++ Text.joinWith " " progress.unrecognized))

end EntityDiagram.CommandLine
