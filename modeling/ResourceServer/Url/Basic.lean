import ResourceServer.Url.Percent
import ResourceServer.Url.Host
import ResourceServer.Url.Path
/-! URLs and their text. -/

namespace ResourceServer

namespace Url

/-- Who is asked: an optional user, a host and an optional port. -/
structure Authority where
  username : String
  password : String
  host : String
  port : Option Nat
  deriving DecidableEq

namespace Authority

/-- The authority of a host alone. -/
def ofHost (host : String) : Authority :=
  ⟨"", "", host, none⟩

def text (authority : Authority) : String :=
  let password := if authority.password = "" then "" else ":" ++ authority.password
  let user := authority.username ++ password
  let port := match authority.port with
    | some port => ":" ++ Number.digitText port
    | none => ""
  (if user = "" then "" else user ++ "@") ++ authority.host ++ port

end Authority

end Url

structure Url where
  scheme : String
  authority : Option Url.Authority
  path : String
  query : Option String
  fragment : Option String
  deriving DecidableEq

namespace Url

/-- Whether the path names no place below a root, so that nothing is found relative to it. -/
def isRootless (url : Url) : Bool :=
  url.authority.isNone && url.path.toList.head? ≠ some '/'

/-- The text of everything in front of the path. -/
def origin (url : Url) : String :=
  url.scheme ++ ":" ++
    match url.authority with
    | some authority => "//" ++ authority.text
    | none => if url.path.toList.take 2 = ['/', '/'] then "/." else ""

def text (url : Url) : String :=
  let query := match url.query with
    | some query => "?" ++ query
    | none => ""
  let fragment := match url.fragment with
    | some fragment => "#" ++ fragment
    | none => ""
  url.origin ++ url.path ++ query ++ fragment

def queryPairs (url : Url) : List (String × String) :=
  decodeForm (url.query.getD "")

/-- The same URL for another page: the page number is moved to the end of the query and set. -/
def withPage (url : Url) (number : Nat) : Url :=
  let others := url.queryPairs.filter fun pair => pair.1 ≠ "page[number]"
  { url with query := some (encodeForm (others ++ [("page[number]", Number.digitText number)])) }

end Url

end ResourceServer
