import ResourceServer.Text.Ranges
/-! Cutting texts at a separator, and trimming white space. -/

namespace ResourceServer.Text

/-- The pieces between separators, at least one; `piece` holds the characters of the current one, last
first. -/
def splitChars (separator : Char) (piece : List Char) : List Char → List (List Char)
  | [] => [piece.reverse]
  | c :: rest =>
    if c = separator then piece.reverse :: splitChars separator [] rest
    else splitChars separator (c :: piece) rest

def split (separator : Char) (text : String) : List String :=
  (splitChars separator [] text.toList).map String.ofList

/-- The text after a given beginning. -/
def dropStart? (start text : List Char) : Option (List Char) :=
  if text.take start.length = start then some (text.drop start.length) else none

/-- The text before a given end. -/
def dropEnd? (ending text : List Char) : Option (List Char) :=
  (dropStart? ending.reverse text.reverse).map List.reverse

/-- The text without a character repeated at its end. -/
def trimEnd (mark : Char) (text : String) : String :=
  String.ofList (text.toList.reverse.dropWhile (· = mark)).reverse

/-! White space. -/

/-- The characters with the White_Space property. -/
def blankRanges : List (Nat × Nat) := [
  (0x9, 0xd), (0x20, 0x20), (0x85, 0x85), (0xa0, 0xa0), (0x1680, 0x1680), (0x2000, 0x200a),
  (0x2028, 0x2029), (0x202f, 0x202f), (0x205f, 0x205f), (0x3000, 0x3000)
]

def isBlank (c : Char) : Bool :=
  inRanges blankRanges c

def trimChars (text : List Char) : List Char :=
  ((text.dropWhile isBlank).reverse.dropWhile isBlank).reverse

/-- The text without white space at its ends. -/
def trim (text : String) : String :=
  String.ofList (trimChars text.toList)

end ResourceServer.Text
