import ResourceServer.Text.Alphanumeric
import ResourceServer.Text.Split
import ResourceServer.Text.Lowercase
/-! Matching texts against patterns and search queries. -/

namespace ResourceServer.Store

/-- Whether some end of a text passes a test, the whole text and the empty one among them. -/
def someEnd (test : List Char → Bool) : List Char → Bool
  | [] => test []
  | c :: rest => test (c :: rest) || someEnd test rest

/-- A percent sign matches any text, an underscore any character, and other characters themselves. -/
def matchPattern : List Char → List Char → Bool
  | [], text => text.isEmpty
  | '%' :: pattern, text => someEnd (matchPattern pattern) text
  | '_' :: pattern, text =>
    match text with
    | [] => false
    | _ :: rest => matchPattern pattern rest
  | c :: pattern, text =>
    match text with
    | [] => false
    | d :: rest => d == c && matchPattern pattern rest

/-- Whether a text is like a pattern, if asked so in lower case on both sides. -/
def isLike (ignoreCase : Bool) (pattern text : String) : Bool :=
  if ignoreCase then
    matchPattern (Text.lowerChars [] pattern.toList) (Text.lowerChars [] text.toList)
  else matchPattern pattern.toList text.toList

/-- The runs of letters and digits of a text; `word` holds the current one, last character first. -/
def splitWords (word : List Char) : List Char → List (List Char)
  | [] => [word.reverse]
  | c :: rest =>
    if Text.isAlphanumeric c then splitWords (c :: word) rest
    else word.reverse :: splitWords [] rest

/-- The words of a text in lower case. -/
def words (text : List Char) : List (List Char) :=
  ((splitWords [] text).filter fun word => !word.isEmpty).map (Text.lowerChars [])

def containsWords (present wanted : List (List Char)) : Bool :=
  wanted.all present.contains

/-- A term asks for all its words, or after an exclamation mark for some of them to be missing. -/
def matchesTerm (present : List (List Char)) (term : List Char) : Bool :=
  match Text.trimChars term with
  | '!' :: term => !containsWords present (words term)
  | term => containsWords present (words term)

/-- A plain query asks for all its words; any other is a choice of terms joined by ampersands. -/
def matchesQuery (plain : Bool) (query text : String) : Bool :=
  let present := words text.toList
  if plain then containsWords present (words query.toList)
  else
    (Text.splitChars '|' [] query.toList).any fun choice =>
      (Text.splitChars '&' [] choice).all (matchesTerm present)

end ResourceServer.Store
