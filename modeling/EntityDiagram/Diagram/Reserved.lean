import EntityDiagram.Text.Alphanumeric

/-!
# Reserved words

The diagram language gives the word `label` a meaning of its own. As a whole identifier it is
marked by an underscore; inside a longer identifier it is harmless and stays.
-/

namespace EntityDiagram

def reservedWords : List Text := ["label"]

def escapeWord (word : Text) : Text :=
  if reservedWords.contains word then '_' :: word else word

/-- Escapes every identifier of a text; `word` is the identifier read so far, in reverse. -/
def escapeWords (word : Text) : Text → Text
  | [] => escapeWord word.reverse
  | c :: rest =>
      if Text.isIdentifier c then escapeWords (c :: word) rest
      else escapeWord word.reverse ++ c :: escapeWords [] rest

/-- A text in which every reserved identifier is escaped. -/
def escapeReserved (text : Text) : Text := escapeWords [] text

end EntityDiagram
