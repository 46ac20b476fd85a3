import ResourceServer.Api.Body
import ResourceServer.Api.Reading
/-! Carrying out requests that write, each in a transaction. -/

namespace ResourceServer.Api

/-- Makes the linkage of a relationship what a request says. -/
def writeLinkage (schema : Schema) (type : EntityType) (relationship : Relationship)
    (owner : String) (linkage : Linkage) (allowReplacement : Bool) : SourceAction Unit :=
  match linkage with
  | .toOne target => Relinking.replaceToOne schema type relationship owner target
  | .toMany targets =>
    Relinking.replaceToMany schema type relationship owner targets allowReplacement

def writeLinkages (schema : Schema) (type : EntityType) (owner : String)
    (linkages : List (Relationship × Linkage)) (allowReplacement : Bool) : SourceAction Unit :=
  linkages.forM fun entry =>
    writeLinkage schema type entry.1 owner entry.2 allowReplacement

/-- What a request says about a new resource: its values and its linkage. -/
def readCreation (endpoint : Endpoint) (request : Request) :
    Except RequestError (Keyed Value × List (Relationship × Linkage)) := do
  let data ← requestData request
  checkType endpoint.type data
  let values ← readAttributes endpoint.type data
  let values ← addClientId endpoint.type endpoint.config.allowClientIds data values
  let linkages ← readRelationships endpoint.type data
  .ok (values, linkages)

/-- Stores a new resource with its links, and answers with its identity, its URL and its document. -/
def storeResource (api : Api) (endpoint : Endpoint) (request : Request) (values : Keyed Value)
    (linkages : List (Relationship × Linkage)) : SourceAction (String × Url × Document) := do
  let resource ← SourceAction.writing (Mapping.insert endpoint.type values)
  writeLinkages api.schema endpoint.type resource.id linkages true
  let location := api.assembler.resourceUrl endpoint.type.name resource.id
  let url ← Store.Action.ofExcept
    ((Url.join request.url location).mapError fun error => .badRequest error.message)
  let document ← api.assembler.assemble api.schema (.single (some resource)) none none url []
  return (resource.id, url, document)

/-- Creates a resource. Linkage of a new resource may always be set. -/
def createResource (api : Api) (endpoint : Endpoint) (request : Request) : Handler Response := do
  let context : Context :=
    { operation := .createResource, type := endpoint.type.name, request := request }
  let (values, linkages) ← Handler.ofExcept (readCreation endpoint request)
  let (url, document) ← Handler.transactionally do
    Handler.preprocess context (endpoint.config.before .createResource)
    let (id, url, document) ←
      Handler.source (storeResource api endpoint request values linkages)
    let document ← Handler.postprocess { context with id := some id } document
      (endpoint.config.after .createResource)
    return (url, document)
  let response := Response.ofDocument 201 document
  return { response with headers := response.headers ++ [("Location", url.text)] }

/-- What a request says about changes of a resource. -/
def readChange (endpoint : Endpoint) (request : Request) (id : String) :
    Except RequestError (Keyed Value × List (Relationship × Linkage)) := do
  let data ← requestData request
  checkType endpoint.type data
  checkId id data
  let values ← readAttributes endpoint.type data
  let linkages ← readRelationships endpoint.type data
  .ok (values, linkages)

/-- Changes the values and the links of a resource. -/
def changeResource (api : Api) (endpoint : Endpoint) (id : String) (values : Keyed Value)
    (linkages : List (Relationship × Linkage)) : SourceAction Unit := do
  if !(← SourceAction.writing (Mapping.update endpoint.type id values)) then
    throw (.noResource endpoint.type.name id)
  writeLinkages api.schema endpoint.type id linkages endpoint.config.allowReplacement

/-- Carries out an action without an answer in a transaction, between the processors of the operation. -/
def carryOut (endpoint : Endpoint) (context : Context) (action : SourceAction (Option Bool)) :
    Handler Response := do
  Handler.transactionally do
    Handler.preprocess context (endpoint.config.before context.operation)
    let wasDeleted ← Handler.source action
    Handler.postprocessEmpty { context with wasDeleted := wasDeleted }
      (endpoint.config.after context.operation)
  return .noContent

def updateResource (api : Api) (endpoint : Endpoint) (request : Request) (id : String) :
    Handler Response := do
  let context : Context :=
    { operation := .updateResource
      type := endpoint.type.name
      id := some id
      request := request }
  let (values, linkages) ← Handler.ofExcept (readChange endpoint request id)
  carryOut endpoint context do
    changeResource api endpoint id values linkages
    return none

def deleteResource (api : Api) (endpoint : Endpoint) (request : Request) (id : String) :
    Handler Response :=
  let context : Context :=
    { operation := .deleteResource
      type := endpoint.type.name
      id := some id
      request := request }
  carryOut endpoint context do
    if !(← SourceAction.writing (Mapping.delete api.schema endpoint.type id)) then
      throw (.noResource endpoint.type.name id)
    return none

/-- The operation on links that a verb stands for. -/
def linkOperation : Verb → Operation
  | .post => .addLinks
  | .patch => .replaceLinks
  | _ => .removeLinks

/-- Changes the links of a relationship of an existing resource, and tells whether links were removed if that
was asked. -/
def changeLinks (api : Api) (endpoint : Endpoint) (operation : Operation) (id : String)
    (relationship : Relationship) (linkage : Linkage) : SourceAction (Option Bool) := do
  let type := endpoint.type
  let _ ← requireResource type id
  match operation with
  | .addLinks =>
    Relinking.appendToMany api.schema type relationship id linkage.identifiers
    return none
  | .replaceLinks =>
    writeLinkage api.schema type relationship id linkage endpoint.config.allowReplacement
    return none
  | _ =>
    return some (← Relinking.removeFromMany api.schema type relationship id linkage.identifiers
      endpoint.config.allowRemoval)

/-- A to-one relationship has nothing to add to and nothing to remove from. -/
def checkLinkOperation (operation : Operation) (relationship : Relationship) :
    Except RequestError Unit :=
  if relationship.isToMany then .ok ()
  else
    match operation with
    | .addLinks =>
      .error (.forbidden s!"Can not add to the to-one relationship {relationship.name}")
    | .removeLinks =>
      .error (.forbidden s!"Can not remove from the to-one relationship {relationship.name}")
    | _ => .ok ()

def updateLinks (api : Api) (endpoint : Endpoint) (request : Request) (id : String)
    (relationship : Relationship) : Handler Response := do
  let operation := linkOperation request.verb
  let context : Context :=
    { operation := operation
      type := endpoint.type.name
      id := some id
      relationship := some relationship.name
      request := request }
  Handler.ofExcept (checkLinkOperation operation relationship)
  let data ← Handler.ofExcept (requestData request)
  let linkage ← Handler.ofExcept (Linkage.ofJson relationship data)
  carryOut endpoint context (changeLinks api endpoint operation id relationship linkage)

end ResourceServer.Api
