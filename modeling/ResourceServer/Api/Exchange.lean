import ResourceServer.Document
import ResourceServer.Source
import ResourceServer.Url.Basic
/-! Requests and responses, and the processors that see them. -/

namespace ResourceServer.Api

inductive Verb
  | get
  | post
  | patch
  | delete
  deriving DecidableEq

namespace Verb

def name : Verb → String
  | .get => "GET"
  | .post => "POST"
  | .patch => "PATCH"
  | .delete => "DELETE"

end Verb

structure Request where
  verb : Verb
  url : Url
  body : Option Json

structure Response where
  status : Nat
  headers : List (String × String)
  body : Option Document

namespace Response

def mediaType : String := "application/vnd.api+json"

def ofDocument (status : Nat) (document : Document) : Response :=
  let links := match document.linkHeader? with
    | some links => [("Link", links)]
    | none => []
  ⟨status, ("Content-Type", mediaType) :: links, some document⟩

def noContent : Response := ⟨204, [], none⟩

def ofError (error : RequestError) : Response :=
  ofDocument error.status (.ofError error)

/-- The first header of a name, which may be written in any case. -/
def header? (response : Response) (name : String) : Option String :=
  let lower (text : String) : List Char := text.toList.map Char.toLower
  (response.headers.find? fun header => lower header.1 = lower name).map (·.2)

end Response

/-- What a request does, once it is known what it is about. -/
inductive Operation
  | getCollection
  | getResource
  | getRelated
  | getRelationship
  | createResource
  | updateResource
  | deleteResource
  | addLinks
  | replaceLinks
  | removeLinks
  deriving DecidableEq

/-- What processors are told about a request. -/
structure Context where
  operation : Operation
  type : String
  id : Option String := none
  relationship : Option String := none
  request : Request
  wasDeleted : Option Bool := none

/-- A processor may refuse a request before it is carried out. -/
structure Rejection where
  status : Nat
  detail : String
  deriving DecidableEq

abbrev Preprocessor := Context → Except Rejection Unit

/-- A processor may change the document of an answer. -/
abbrev Postprocessor := Context → Document → Document

/-- A processor that was called: before or after the request was carried out, and then with or without a
document. -/
inductive Call
  | before (context : Context)
  | after (context : Context) (withDocument : Bool)

/-- The stored resources and the processors called while a request is handled. -/
structure Handling where
  connection : Store.Connection
  calls : List Call := []

/-- A step of handling a request. -/
abbrev Handler := ExceptT RequestError (StateM Handling)

namespace Handler

variable {α : Type}

def source (action : SourceAction α) : Handler α := do
  let handling ← get
  let (result, connection) := (ExceptT.run action).run handling.connection
  set { handling with connection := connection }
  match result with
  | .ok value => return value
  | .error error => throw error

def ofExcept (result : Except RequestError α) : Handler α :=
  match result with
  | .ok value => return value
  | .error error => throw error

def note (call : Call) : Handler Unit :=
  modify fun handling => { handling with calls := handling.calls ++ [call] }

/-- Calls processors one after another until one refuses. -/
def preprocess (context : Context) : List Preprocessor → Handler Unit
  | [] => return ()
  | processor :: rest => do
    note (.before context)
    match processor context with
    | .ok () => preprocess context rest
    | .error rejection => throw (.rejected rejection.status rejection.detail)

/-- Calls processors one after another on a document. -/
def postprocess (context : Context) (document : Document) : List Postprocessor → Handler Document
  | [] => return document
  | processor :: rest => do
    note (.after context true)
    postprocess context (processor context document) rest

/-- Calls processors where there is no document. -/
def postprocessEmpty (context : Context) (processors : List Postprocessor) : Handler Unit :=
  processors.forM fun _ => note (.after context false)

/-- Carries out an action and gives its outcome as a value. -/
def attempt (action : Handler α) : Handler (Except RequestError α) := do
  let handling ← get
  let (result, handling) := (ExceptT.run action).run handling
  set handling
  return result

/-- Carries out an action in a transaction, which is kept if it succeeds and undone if it fails. -/
def transactionally (action : Handler α) : Handler α := do
  source (SourceAction.writing (Mapping.statement Store.Action.begin))
  match ← attempt action with
  | .ok value =>
    source (SourceAction.writing (Mapping.statement Store.Action.commit))
    return value
  | .error error =>
    let _ ← attempt (source (SourceAction.writing (Mapping.statement Store.Action.rollback)))
    throw error

end Handler

end ResourceServer.Api
