import ResourceServer.Number.Reading
import ResourceServer.Url.Basic
/-! Reading URLs, alone or relative to another. -/

namespace ResourceServer.Url

open ResourceServer.Number

/-- The port that a scheme implies. -/
def defaultPort? (scheme : String) : Option Nat :=
  [("http", 80), ("https", 443), ("ws", 80), ("wss", 443), ("ftp", 21)].lookup scheme

def kindOf (scheme : String) : SchemeKind :=
  if scheme = "file" then .file else if (defaultPort? scheme).isSome then .special else .other

/-- Control characters and blanks around a URL do not count. -/
def trimmed (text : String) : List Char :=
  let isOuter (c : Char) : Bool := c.toNat ≤ 32
  ((text.toList.dropWhile isOuter).reverse.dropWhile isOuter).reverse

/-- A scheme before a colon, in lower case, and the text after the colon. -/
def readScheme? (text : List Char) : Option (String × List Char) :=
  let isSchemeChar (c : Char) : Bool := c.isAlphanum || ['+', '-', '.'].contains c
  let (before, rest) := text.span (· ≠ ':')
  let scheme := counted before
  if rest.isEmpty ∨ !scheme.head?.any Char.isAlpha ∨ !scheme.all isSchemeChar then none
  else some (String.ofList (scheme.map Char.toLower), rest.drop 1)

/-- The characters at which the part that names a host ends. -/
def endsAuthority (kind : SchemeKind) (c : Char) : Bool :=
  isSlash kind c || c = '?' || c = '#'

def isPathChar (c : Char) : Bool :=
  c ≠ '?' && c ≠ '#'

/-- Splits a user off: everything before the last at sign. -/
def splitUser (text : List Char) : Option (List Char) × List Char :=
  if text.contains '@' then
    let host := (text.reverse.takeWhile (· ≠ '@')).reverse
    (some (text.take (text.length - host.length - 1)), host)
  else (none, text)

/-- A host ends at the first colon outside brackets. -/
def splitHost (inside : Bool) : List Char → List Char × List Char
  | [] => ([], [])
  | c :: rest =>
    if c = ':' ∧ !inside then ([], c :: rest)
    else
      let inside := if c = '[' then true else if c = ']' then false else inside
      let (host, port) := splitHost inside rest
      (c :: host, port)

/-- A port after a colon, and the text after it. A port is left out when it is empty or the one that the
scheme implies. -/
def readPort (scheme : String) : List Char → Except UrlError (Option Nat × List Char)
  | ':' :: text =>
    let (digits, rest) := text.span Char.isDigit
    let isEnded := rest.head?.all fun c => ['/', '\\', '?', '#'].contains c
    if !isEnded ∨ 65535 < numeral 0 digits then .error .invalidPort
    else if digits.isEmpty ∨ defaultPort? scheme = some (numeral 0 digits) then .ok (none, rest)
    else .ok (some (numeral 0 digits), rest)
  | text => .ok (none, text)

/-- What follows two slashes: user, host and port, and the text from the path on. -/
def readAuthority (scheme : String) (text : List Char) :
    Except UrlError (Authority × List Char) := do
  let kind := kindOf scheme
  let (part, rest) := text.span fun c => !endsAuthority kind c
  let (user, hostPort) := splitUser part
  if user = some [] ∧ hostPort.isEmpty ∧ !rest.isEmpty then .error .emptyHost
  let (name, password) := (user.getD []).span (· ≠ ':')
  let (hostText, portText) := splitHost false hostPort
  if hostText.isEmpty then
    if kind.isSpecial ∨ !portText.isEmpty ∨ !name.isEmpty ∨ 1 < password.length then
      .error .emptyHost
  let host ← if hostText.isEmpty then .ok "" else Host.read kind.isSpecial hostText
  let (port, rest) ← readPort scheme (portText ++ rest)
  let encode (text : List Char) := String.ofList (percentEncode isUserReserved text)
  .ok (⟨encode name, encode (password.drop 1), host, port⟩, rest)

/-- Query and fragment, which end a URL. -/
def readSuffix (kind : SchemeKind) (text : List Char) : Option String × Option String :=
  let (query, fragment) := (counted text).span (· ≠ '#')
  let reserved := if kind.isSpecial then isSpecialQueryReserved else isQueryReserved
  let query := match query with
    | '?' :: query => some (String.ofList (percentEncode reserved query))
    | _ => none
  let fragment := match fragment with
    | '#' :: fragment => some (String.ofList (percentEncode isFragmentReserved fragment))
    | _ => none
  (query, fragment)

/-- The URL of a scheme and an authority with the path, query and fragment of a text. -/
def complete (scheme : String) (authority : Option Authority) (path : List Char → String)
    (text : List Char) : Url :=
  let (pathText, rest) := text.span isPathChar
  let (query, fragment) := readSuffix (kindOf scheme) rest
  ⟨scheme, authority, path pathText, query, fragment⟩

def readHierarchical (scheme : String) (text : List Char) : Except UrlError Url := do
  let (authority, rest) ← readAuthority scheme text
  .ok (complete scheme (some authority) (fun path => (trailAfterHost (kindOf scheme) path).path (kindOf scheme)) rest)

/-- Drops the first characters that count, so many of them. -/
def dropCounted : Nat → List Char → List Char
  | 0, text => text
  | _, [] => []
  | count + 1, c :: rest =>
    if isIgnored c then dropCounted (count + 1) rest else dropCounted count rest

/-- The URL of a file: a host, and a path that goes on from another one. -/
def completeFile (host : String) (trail : Trail) (text : List Char) : Url :=
  complete "file" (some (.ofHost host)) (fun path => (trail.extend .file path).path .file) text

/-- A file after two slashes: a host and a path. Without a host, and on this machine, the slash that begins
the path comes on top of one that is there already. A drive belongs to no host. -/
def readHostedFile (text : List Char) : Except UrlError Url := do
  let (hostText, rest) := text.span fun c => !endsAuthority .file c
  let hostText := counted hostText
  if isDrive hostText then return completeFile "" .root text
  let host ← if hostText.isEmpty then .ok "" else Host.read true hostText
  if host = "" ∨ host = "localhost" then return completeFile "" .root rest
  let trail := trailAfterHost .file (rest.takeWhile isPathChar)
  let host := if trail.namesDrive then "" else host
  return complete "file" (some (.ofHost host)) (fun _ => trail.path .file) rest

/-- A file after one slash: it stays on the drive of the base, or else with its host. -/
def readRootedFile (base : Option Url) (text : List Char) : Url :=
  match if startsWithDrive ((counted text).drop 1) then none else base with
  | none => completeFile "" .empty text
  | some base =>
    let drive := (base.path.toList.drop 1).takeWhile (· ≠ '/')
    if isPlainDrive drive then completeFile "" ⟨drive.reverse ++ ['/'], false⟩ text
    else completeFile ((base.authority.map Authority.host).getD "") .empty text

/-- What follows the scheme of a file, or a text relative to a file. -/
def readFile (base : Option Url) (text : List Char) : Except UrlError Url :=
  match counted text with
  | first :: rest =>
    if isSlash .file first then
      if rest.head?.any (isSlash .file) then readHostedFile (dropCounted 2 text)
      else .ok (readRootedFile base text)
    else
      match base with
      | none => .ok (completeFile "" .root text)
      | some base =>
        let (query, fragment) := readSuffix .file text
        if first = '?' then .ok { base with query := query, fragment := fragment }
        else if first = '#' then .ok { base with fragment := fragment }
        else if startsWithDrive (counted text) then .ok (completeFile "" .root text)
        else
          let above := (Trail.ofPath base.path).dropSegment .file
          .ok (completeFile ((base.authority.map Authority.host).getD "") above text)
  | [] =>
    match base with
    | none => .ok (completeFile "" .root [])
    | some base => .ok { base with fragment := none }

/-- What follows a scheme and its colon. -/
def readAfterScheme (scheme : String) (text : List Char) : Except UrlError Url :=
  match kindOf scheme with
  | .file => readFile none text
  | .special => readHierarchical scheme ((counted text).dropWhile (isSlash .special))
  | .other =>
    match counted text with
    | '/' :: '/' :: rest => readHierarchical scheme rest
    | '/' :: rest =>
      .ok (complete scheme none (fun path => (Trail.root.extend .other path).path .other) rest)
    | rest =>
      .ok (complete scheme none (fun path => String.ofList (percentEncode isControl path)) rest)

/-- Reads a URL that stands alone. -/
def read (text : String) : Except UrlError Url :=
  match readScheme? (trimmed text) with
  | some (scheme, rest) => readAfterScheme scheme rest
  | none => .error .relativeWithoutBase

/-- The text after a scheme, or without one, taken relative to a URL that is no file. -/
def joinRelative (base : Url) (text : List Char) : Except UrlError Url :=
  let kind := kindOf base.scheme
  let below (trail : Trail) (text : List Char) : Url :=
    complete base.scheme base.authority (fun path => (trail.extend kind path).path kind) text
  match text with
  | [] => .ok { base with fragment := none }
  | '?' :: _ =>
    let (query, fragment) := readSuffix kind text
    .ok { base with query := query, fragment := fragment }
  | '#' :: _ => .ok { base with fragment := (readSuffix kind text).2 }
  | c :: rest =>
    if isSlash .special c then
      let slashes := text.takeWhile (isSlash .special)
      let marks := if text.take 2 = ['/', '/'] then 2 else slashes.length
      if 2 ≤ slashes.length then readHierarchical base.scheme (text.drop marks)
      else .ok (below .root rest)
    else
      let above := (Trail.ofPath base.path).dropSegment kind
      .ok (below (if above.characters.isEmpty then .root else above) text)

/-- Reads a URL that may leave out what it shares with a base. -/
def join (base : Url) (text : String) : Except UrlError Url :=
  let text := trimmed text
  match readScheme? text with
  | some (scheme, rest) =>
    let slashes := (counted rest).takeWhile (isSlash .special)
    match kindOf scheme with
    | .file => readFile (if base.scheme = "file" then some base else none) rest
    | .special =>
      if scheme = base.scheme ∧ slashes.length < 2 then joinRelative base (counted rest)
      else readAfterScheme scheme rest
    | .other => readAfterScheme scheme rest
  | none =>
    if base.isRootless then
      if (counted text).head? = some '#' then
        .ok { base with fragment := (readSuffix .other text).2 }
      else .error .relativeWithRootlessBase
    else if base.scheme = "file" then readFile (some base) text
    else joinRelative base (counted text)

end ResourceServer.Url
