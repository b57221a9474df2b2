import EntityDiagram.Text

/-!
# Tags

A tag says what a node stands for. Nodes without one get a tag by their form: collections by their
kind, plain scalars by the pattern that their text follows, all other scalars as text.
-/

namespace EntityDiagram.Yaml

/-- The tags that have a meaning, and any other one. -/
inductive Tag where
  | null
  | bool
  | int
  | float
  | binary
  | timestamp
  | omap
  | pairs
  | set
  | str
  | seq
  | map
  | merge
  | value
  | other
deriving DecidableEq, Repr

def tagDomain : String := "tag:yaml.org,2002:"

def Tag.ofUri (uri : String) : Tag :=
  let known : List (String × Tag) :=
    [("null", .null), ("bool", .bool), ("int", .int), ("float", .float), ("binary", .binary),
      ("timestamp", .timestamp), ("omap", .omap), ("pairs", .pairs), ("set", .set), ("str", .str),
      ("seq", .seq), ("map", .map), ("merge", .merge), ("value", .value)]
  ((known.find? fun entry => tagDomain ++ entry.1 == uri).map Prod.snd).getD .other

/-! ### Patterns of plain scalars -/

/-- Digits with underscores between or after them. -/
def isDigitOrLow (c : Char) : Bool := c.isDigit || c == '_'

def dropSign : List Char → List Char
  | '+' :: rest => rest
  | '-' :: rest => rest
  | text => text

/-- Further parts of a number to the base sixty: each a colon and one or two digits below sixty. -/
def sixtieths : List Char → Option (List Char)
  | ':' :: a :: b :: rest =>
      if '0' ≤ a && a ≤ '5' && b.isDigit then some (goOn rest)
      else if a.isDigit then some (goOn (b :: rest))
      else none
  | [':', a] => if a.isDigit then some [] else none
  | _ => none
where
  goOn : List Char → List Char
    | ':' :: a :: b :: rest =>
        if '0' ≤ a && a ≤ '5' && b.isDigit then goOn rest
        else if a.isDigit then goOn (b :: rest)
        else ':' :: a :: b :: rest
    | [':', a] => if a.isDigit then [] else [':', a]
    | rest => rest

/-- Whole numbers: binary, octal, decimal, hexadecimal, or to the base sixty. -/
def isIntText (text : List Char) : Bool :=
  match dropSign text with
  | '0' :: 'b' :: rest => !rest.isEmpty && rest.all fun c => c == '0' || c == '1' || c == '_'
  | '0' :: 'x' :: rest =>
      !rest.isEmpty && rest.all fun c =>
        c.isDigit || ('a' ≤ c && c ≤ 'f') || ('A' ≤ c && c ≤ 'F') || c == '_'
  | '0' :: rest => rest.all fun c => ('0' ≤ c && c ≤ '7') || c == '_'
  | c :: rest =>
      c.isDigit &&
        match rest.dropWhile isDigitOrLow with
        | [] => true
        | more => sixtieths more == some []
  | [] => false

/-- An optional exponent at the end of a number, whose sign is not optional. -/
def isExponentText : List Char → Bool
  | [] => true
  | mark :: sign :: digits =>
      (mark == 'e' || mark == 'E') && (sign == '+' || sign == '-') && !digits.isEmpty &&
        digits.all Char.isDigit
  | _ => false

/-- Numbers with a point: decimal, to the base sixty, infinite or undefined. -/
def isFloatText (text : List Char) : Bool :=
  match text with
  | '.' :: c :: rest =>
      if c.isDigit then isExponentText (rest.dropWhile isDigitOrLow)
      else isInfinityText text || text == ".nan".toList || text == ".NaN".toList ||
        text == ".NAN".toList
  | _ =>
      match dropSign text with
      | '.' :: _ => isInfinityText (dropSign text)
      | c :: rest =>
          c.isDigit &&
            match rest.dropWhile isDigitOrLow with
            | '.' :: more => isExponentText (more.dropWhile isDigitOrLow)
            | more =>
                match sixtieths more with
                | some ('.' :: fraction) => fraction.all isDigitOrLow
                | _ => false
      | [] => false
where
  isInfinityText (text : List Char) : Bool :=
    text == ".inf".toList || text == ".Inf".toList || text == ".INF".toList

structure TimestampText where
  year : List Char
  month : List Char
  day : List Char
  /-- Hour, minute and second, with the fraction behind a point. -/
  time : Option (List Char × List Char × List Char × List Char)
  /-- `Z`, or a sign with hours and minutes. -/
  zone : Option (Option (Char × List Char × List Char))

/-- Takes between `least` and `most` digits. -/
def takeDigits (least most : Nat) (text : List Char) : Option (List Char × List Char) :=
  let digits := (text.take most).takeWhile Char.isDigit
  if least ≤ digits.length then some (digits, text.drop digits.length) else none

def takeMark (mark : Char) : List Char → Option (List Char)
  | c :: rest => if c == mark then some rest else none
  | [] => none

def isSpaceOrTab (c : Char) : Bool := c == ' ' || c == '\t'

def zoneOf : List Char → Option (Option (Char × List Char × List Char))
  | ['Z'] => some none
  | sign :: rest => do
      if sign == '+' || sign == '-' then
        let (hours, rest) ← takeDigits 1 2 rest
        match rest with
        | [] => some (some (sign, hours, []))
        | _ =>
            let (minutes, rest) ← takeDigits 2 2 (← takeMark ':' rest)
            if rest.isEmpty then some (some (sign, hours, minutes)) else none
      else none
  | [] => none

def timeOf (date : TimestampText) (text : List Char) : Option TimestampText := do
  let rest ← match text with
    | c :: rest =>
        if c == 'T' || c == 't' then some rest
        else if isSpaceOrTab c then some (rest.dropWhile isSpaceOrTab)
        else none
    | [] => none
  let (hour, rest) ← takeDigits 1 2 rest
  let (minute, rest) ← takeDigits 2 2 (← takeMark ':' rest)
  let (second, rest) ← takeDigits 2 2 (← takeMark ':' rest)
  let (fraction, rest) := match rest with
    | '.' :: more => (more.takeWhile Char.isDigit, more.dropWhile Char.isDigit)
    | other => ([], other)
  let timed := { date with time := some (hour, minute, second, fraction) }
  match rest with
  | [] => some timed
  | _ =>
      let zone ← zoneOf (rest.dropWhile isSpaceOrTab)
      some { timed with zone := some zone }

/-- Reads a timestamp: a day, and possibly a time of day. -/
def timestampOf (text : List Char) : Option TimestampText := do
  let (year, rest) ← takeDigits 4 4 text
  let (month, rest) ← takeDigits 1 2 (← takeMark '-' rest)
  let (day, rest) ← takeDigits 1 2 (← takeMark '-' rest)
  let date : TimestampText := ⟨year, month, day, none, none⟩
  match rest with
  | [] => some date
  | _ => timeOf date rest

/-- Texts that are timestamps on their own: a lone day has its month and day in full. -/
def isTimestampText (text : List Char) : Bool :=
  match timestampOf text with
  | none => false
  | some parts => parts.time.isSome || (parts.month.length == 2 && parts.day.length == 2)

def truthWords : List String :=
  ["yes", "Yes", "YES", "no", "No", "NO", "true", "True", "TRUE", "false", "False", "FALSE",
    "on", "On", "ON", "off", "Off", "OFF"]

/-- The marks of tags, anchors and aliases, which no plain scalar can be and no value has. -/
def bareMarks : List String := ["!", "&", "*"]

def nullWords : List String := ["~", "null", "Null", "NULL"]

/-- A text without a line feed at its end. -/
def dropLastFeed (text : List Char) : List Char :=
  if text.getLast? == some '\n' then text.dropLast else text

/-- The tag of a plain scalar. A line feed at the end of the text is overlooked, but a text of
nothing else is a text. -/
def implicitTag (text : Text) : Tag :=
  let word := dropLastFeed text.toChars
  if text.isEmpty then .null
  else if word.isEmpty then .str
  else if truthWords.contains (String.ofList word) then .bool
  else if isFloatText word then .float
  else if isIntText word then .int
  else if word == ['<', '<'] then .merge
  else if nullWords.contains (String.ofList word) then .null
  else if isTimestampText word then .timestamp
  else if word == ['='] then .value
  else if bareMarks.contains (String.ofList word) then .other
  else .str

end EntityDiagram.Yaml
