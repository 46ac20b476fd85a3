import ResourceServer.Api.Writing
/-! Handling requests. -/

namespace ResourceServer.Api

open ResourceServer.Calendar

def findRelationship (type : EntityType) (name : String) : Except RequestError Relationship :=
  match type.relationship? name with
  | some relationship => .ok relationship
  | none => .error (.notFound s!"No relationship {name} on type {type.name}")

/-- Carries out a request once its route is known. -/
def carryOutRoute (api : Api) (now : Timestamp) (endpoint : Endpoint) (request : Request) :
    Route → Verb → Handler Response
  | .collection, .get => getCollection api now endpoint request
  | .collection, .post => createResource api endpoint request
  | .resource id, .get => getResource api endpoint request id
  | .resource id, .patch => updateResource api endpoint request id
  | .resource id, .delete => deleteResource api endpoint request id
  | .related id name, .get => do
    getRelated api endpoint request id (← Handler.ofExcept (findRelationship endpoint.type name))
  | .relationship id name, .get => do
    getRelationship api endpoint request id
      (← Handler.ofExcept (findRelationship endpoint.type name))
  | .relationship id name, _ => do
    updateLinks api endpoint request id (← Handler.ofExcept (findRelationship endpoint.type name))
  | _, verb => throw (.methodNotAllowed verb.name request.url.path)

/-- Finds out what a request is about and carries it out. -/
def dispatch (api : Api) (now : Timestamp) (request : Request) : Handler Response := do
  let path := request.url.path
  let (endpoint, route) ← Handler.ofExcept (api.route path)
  if !endpoint.config.allows request.verb then
    throw (.methodNotAllowed request.verb.name path)
  carryOutRoute api now endpoint request route request.verb

/-- The outcome of a request. -/
structure Outcome where
  response : Response
  calls : List Call
  statements : List String
  database : Store.Database

/-- Handles a request on a database, on a connection of its own. -/
def handle (api : Api) (now : Timestamp) (request : Request) (database : Store.Database) :
    Outcome :=
  let (result, handling) := (ExceptT.run (dispatch api now request)).run ⟨⟨database, none, []⟩, []⟩
  let response := match result with
    | .ok response => response
    | .error error => .ofError error
  ⟨response, handling.calls, handling.connection.log, handling.connection.database⟩

end ResourceServer.Api
