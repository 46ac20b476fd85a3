import ResourceServer.Filter.Node
import ResourceServer.Paging
import ResourceServer.Sorting
/-! Why a request is not answered as asked. -/

namespace ResourceServer

open ResourceServer.Filter ResourceServer.Paging ResourceServer.Sorting

/-- A backend failure is told apart by whether the request was writing at the time. -/
inductive RequestError
  | filter (error : FilterError)
  | sort (error : SortError)
  | page (error : PageError)
  | badRequest (detail : String)
  | notFound (detail : String)
  | conflict (detail : String)
  | forbidden (detail : String)
  | methodNotAllowed (method path : String)
  | rejected (status : Nat) (detail : String)
  | unrenderable (failures : List String)
  | backend (message : String) (writing : Bool)
  deriving DecidableEq

/-- One entry of an error document. -/
structure ErrorEntry where
  status : String
  title : String
  detail : String
  deriving DecidableEq

namespace RequestError

def message : RequestError → String
  | .filter error => error.message
  | .sort error => error.message
  | .page error => error.message
  | .badRequest detail | .notFound detail | .conflict detail | .forbidden detail => detail
  | .methodNotAllowed method path => s!"Method {method} is not allowed for {path}"
  | .rejected _ detail => detail
  | .unrenderable failures => "; ".intercalate failures
  | .backend message _ => message

/-- The words by which a backend says that a write clashes with what is stored. -/
def clashWords : List String :=
  ["conflicts with", "UNIQUE constraint failed", "is not unique", "duplicate key"]

def occursIn (word : List Char) : List Char → Bool
  | [] => word.isEmpty
  | c :: rest => (c :: rest).take word.length = word || occursIn word rest

/-- Whether a backend's message tells of a clash. -/
def isClash (message : String) : Bool :=
  clashWords.any fun word => occursIn word.toList message.toList

def status : RequestError → Nat
  | .filter _ | .sort _ | .page _ | .badRequest _ => 400
  | .forbidden _ => 403
  | .notFound _ => 404
  | .methodNotAllowed _ _ => 405
  | .conflict _ => 409
  | .rejected status _ => status
  | .unrenderable _ => 500
  | .backend message writing =>
    if !writing then 500 else if isClash message then 409 else 400

/-- The reason phrase of a status. -/
def reason (status : Nat) : String :=
  if status = 400 then "Bad Request"
  else if status = 403 then "Forbidden"
  else if status = 404 then "Not Found"
  else if status = 405 then "Method Not Allowed"
  else if status = 409 then "Conflict"
  else if status = 500 then "Internal Server Error"
  else "Error"

def title : RequestError → String
  | .filter _ => "Invalid filter"
  | .sort _ => "Invalid sort"
  | .page _ => "Invalid page"
  | .unrenderable _ => "Serialization error"
  | .rejected _ _ => "Processing error"
  | error => reason error.status

/-- The entries of an error document: one for each resource that could not be rendered, else a single one. -/
def entries (error : RequestError) : List ErrorEntry :=
  let entry (detail : String) : ErrorEntry := ⟨toString error.status, error.title, detail⟩
  match error with
  | .unrenderable failures => failures.map entry
  | error => [entry error.message]

def noResource (type id : String) : RequestError :=
  .notFound s!"No resource with ID {id} and type {type}"

end RequestError

end ResourceServer
