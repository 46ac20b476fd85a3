import ResourceServer.Json.Basic
import ResourceServer.RequestError
/-! Top-level documents. -/

namespace ResourceServer

/-- A document holds data or errors, with what is included, links and meta information. -/
structure Document where
  data : Option Json := none
  errors : Option (List ErrorEntry) := none
  included : Option (List Json) := none
  links : Keyed Json := []
  metadata : Keyed Json := []

namespace Document

def ofError (error : RequestError) : Document := { errors := some error.entries }

def entryJson (entry : ErrorEntry) : Json :=
  .object [("detail", .string entry.detail), ("status", .string entry.status),
    ("title", .string entry.title)]

/-- The members of a document; empty links and meta information are left out. -/
def toJson (document : Document) : Json :=
  let some? (name : String) (json : Option Json) : Keyed Json :=
    match json with
    | some json => [(name, json)]
    | none => []
  let filled (name : String) (members : Keyed Json) : Keyed Json :=
    if members.isEmpty then [] else [(name, .object members)]
  .ofMembers (some? "data" document.data
    ++ some? "errors" (document.errors.map fun entries => .array (entries.map entryJson))
    ++ some? "included" (document.included.map .array)
    ++ [("jsonapi", .object [("version", .string "1.0")])]
    ++ filled "links" document.links
    ++ filled "meta" document.metadata)

/-- The links to other pages in the form of a header, if there are any. -/
def linkHeader? (document : Document) : Option String :=
  let links := ["first", "last", "prev", "next"].filterMap fun name => do
    let url ← (document.links.get? name).bind Json.string?
    some s!"<{url}>; rel=\"{name}\""
  if links.isEmpty then none else some (", ".intercalate links)

end Document

end ResourceServer
