import ResourceServer.Text.Split
import ResourceServer.Url.Percent
/-! Paths of URLs. A path grows by segments: one dot stays in place, and two dots go up, though never above
a segment that names a drive. -/

namespace ResourceServer.Url

/-- How a scheme reads what follows it: as a file, as one of the schemes whose URLs always have a host, or
as any other. -/
inductive SchemeKind
  | file
  | special
  | other
  deriving DecidableEq

namespace SchemeKind

/-- Whether backslashes count as slashes. -/
def isSpecial (kind : SchemeKind) : Bool :=
  kind ≠ .other

end SchemeKind

def isSlash (kind : SchemeKind) (c : Char) : Bool :=
  c = '/' || (kind.isSpecial && c = '\\')

/-- Tabs and line ends in a URL do not count. -/
def isIgnored (c : Char) : Bool :=
  ['\t', '\n', '\r'].contains c

/-- The characters of a URL that count. -/
def counted (text : List Char) : List Char :=
  text.filter fun c => !isIgnored c

/-- A letter and a colon or a vertical bar name a drive. -/
def isDrive : List Char → Bool
  | [letter, mark] => letter.isAlpha && (mark = ':' || mark = '|')
  | _ => false

/-- A drive that is named with a colon. -/
def isPlainDrive (segment : List Char) : Bool :=
  isDrive segment && segment.getLast? = some ':'

/-- Whether a text names a drive, alone or before the end of a segment. -/
def startsWithDrive (text : List Char) : Bool :=
  isDrive (text.take 2) && text[2]?.all fun c => ['/', '\\', '?', '#'].contains c

def isDot (segment : String) : Bool :=
  [".", "%2e", "%2E"].contains segment

def isDoubleDot (segment : String) : Bool :=
  ["..", "%2e%2e", "%2e%2E", "%2E%2e", "%2E%2E", "%2e.", "%2E.", ".%2e", ".%2E"].contains segment

/-- A path that is being read: its characters, last first, and whether it has turned out to begin with a
drive. -/
structure Trail where
  characters : List Char
  namesDrive : Bool := false
  deriving DecidableEq

namespace Trail

/-- The path without its last segment; the slash before it stays, and so does the drive of a file. -/
def dropSegment (kind : SchemeKind) (trail : Trail) : Trail :=
  let segment := trail.characters.takeWhile (· ≠ '/')
  if kind = .file ∧ isPlainDrive segment.reverse then trail
  else { trail with characters := trail.characters.drop segment.length }

/-- Whether the slash at the end of a path may go: not the first one, nor one after a drive. -/
def endsInLooseSlash (trail : Trail) : Bool :=
  match trail.characters with
  | '/' :: before =>
    let segment := before.takeWhile (· ≠ '/')
    segment.length < before.length && !startsWithDrive (segment.reverse ++ ['/'])
  | _ => false

def closeWithSlash (trail : Trail) : Trail :=
  if trail.characters.head? = some '/' then trail
  else { trail with characters := '/' :: trail.characters }

/-- Goes up from the place where a segment would begin. -/
def goUp (kind : SchemeKind) (trail : Trail) (closed : Bool) : Trail :=
  let place := if trail.endsInLooseSlash then { trail with characters := trail.characters.drop 1 } else trail
  let above := place.dropSegment kind
  if closed then above.closeWithSlash else above

/-- Puts characters behind a path, and a slash if their segment is closed. -/
def put (trail : Trail) (text : List Char) (closed : Bool) : Trail :=
  let characters := text.reverse ++ trail.characters
  { trail with characters := if closed then '/' :: characters else characters }

/-- What follows the drive at the start of a segment, if an ignored character parts the two. -/
def afterPartedDrive? (segment : List Char) : Option (List Char × List Char) :=
  match segment.dropWhile isIgnored with
  | letter :: rest =>
    match rest.dropWhile isIgnored with
    | ':' :: rest =>
      let parted := rest.head?.any isIgnored && !(counted rest).isEmpty
      if letter.isAlpha && parted then some ([letter, ':'], counted rest) else none
    | _ => none
  | [] => none

/-- Adds a segment to a path. The first segment of a file may name a drive, which then has a colon; what an
ignored character parts from a drive is taken as it is. -/
def addSegment (kind : SchemeKind) (trail : Trail) (segment : List Char) (closed : Bool) : Trail :=
  let isFile : Bool := kind = .file
  let isFirstOfFile : Bool := isFile && trail.characters.length = 1
  let encode (text : List Char) : List Char := percentEncode isPathReserved text
  let text := encode (counted segment)
  match if isFirstOfFile then afterPartedDrive? segment else none with
  | some (drive, rest) => trail.put (drive ++ '/' :: encode rest) closed
  | none =>
    let atDrive : Bool :=
      isFile && isPlainDrive (trail.characters.reverse.drop 1) && !text.isEmpty
    let trail := if atDrive then trail.put ['/'] false else trail
    if isDoubleDot (String.ofList text) then trail.goUp kind closed
    else if isDot (String.ofList text) then trail.closeWithSlash
    else if isFirstOfFile && isDrive text then
      { trail.put (text.take 1 ++ [':']) closed with namesDrive := true }
    else trail.put text closed

/-- Adds segments to a path; all but the last are closed. -/
def addSegments (kind : SchemeKind) (trail : Trail) : List (List Char) → Trail
  | [] => trail
  | segment :: rest => addSegments kind (trail.addSegment kind segment !rest.isEmpty) rest

/-- Adds the segments of a text to a path. -/
def extend (kind : SchemeKind) (trail : Trail) (text : List Char) : Trail :=
  let slashed := text.map fun c => if isSlash kind c then '/' else c
  trail.addSegments kind (Text.splitChars '/' [] slashed)

/-- The path in order. Files have one slash at the start of a path. -/
def path (kind : SchemeKind) (trail : Trail) : String :=
  let characters := trail.characters.reverse
  String.ofList (if kind = .file then '/' :: characters.dropWhile (· = '/') else characters)

/-- A path of which nothing is read. -/
def empty : Trail := ⟨[], false⟩

/-- A path that begins with a slash. -/
def root : Trail := ⟨['/'], false⟩

/-- A path that is given already. -/
def ofPath (path : String) : Trail := ⟨path.toList.reverse, false⟩

end Trail

/-- The path that follows a host. -/
def trailAfterHost (kind : SchemeKind) (text : List Char) : Trail :=
  match counted text with
  | [] => Trail.extend kind (if kind.isSpecial then .root else .empty) []
  | c :: _ =>
    if isSlash kind c then Trail.extend kind .root ((text.dropWhile isIgnored).drop 1)
    else Trail.extend kind .root text

end ResourceServer.Url
