import ResourceServer.Api.Config
import ResourceServer.Filter.Resolution
import ResourceServer.Inclusion
import ResourceServer.Relinking
/-! Answering requests that read. -/

namespace ResourceServer.Api

open ResourceServer.Calendar ResourceServer.Filter ResourceServer.Paging

/-- The resource of an identity. -/
def requireResource (type : EntityType) (id : String) : SourceAction Instance := do
  match (← SourceAction.reading (Mapping.get type [id])).getLast? with
  | some resource => return resource
  | none => throw (.noResource type.name id)

/-- The resources that a relationship links to an owner. -/
def loadTargets (schema : Schema) (type : EntityType) (relationship : Relationship)
    (id : String) : SourceAction (List Instance) := do
  return (← SourceAction.reading (Mapping.loadRelation schema type relationship [id])).of id

/-- The resources included along the paths that a client asks for, else along those of the settings. Without
paths nothing is included, not even an empty list. -/
def includeFor (schema : Schema) (type : EntityType) (config : ResourceConfig)
    (parameters : Parameters) (roots : List Instance) :
    SourceAction (Option (List Instance)) := do
  let paths := parameters.include?.getD config.includes
  if paths.isEmpty then return none
  return some (← Inclusion.resolve schema type roots paths)

def parametersOf (request : Request) : Except RequestError Parameters :=
  Parameters.read (request.url.query.getD "")

/-- The collection that some parameters ask for, with what it includes and its page. -/
def collectionDocument (api : Api) (now : Timestamp) (endpoint : Endpoint) (request : Request)
    (parameters : Parameters) : SourceAction Document := do
  let schema := api.schema
  let type := endpoint.type
  let config := endpoint.config
  let predicate ← Store.Action.ofExcept
    ((resolveAll schema now type parameters.filters).mapError .filter)
  let ordering ← Store.Action.ofExcept
    ((Sorting.resolve schema type parameters.sort).mapError .sort)
  let page ← Store.Action.ofExcept
    ((parameters.page config.pageSize config.maxPageSize).mapError .page)
  let resources ← SourceAction.reading
    (Mapping.query schema type ⟨predicate, ordering, page.window?⟩)
  let total ←
    if page.isPaginated then SourceAction.reading (Mapping.count schema type predicate)
    else pure resources.length
  let included ← includeFor schema type config parameters resources
  api.assembler.assemble schema (.collection resources) included (some (paginate total page))
    request.url parameters.fields

/-- The resource of an identity, with what it includes. -/
def resourceDocument (api : Api) (endpoint : Endpoint) (request : Request) (id : String)
    (parameters : Parameters) : SourceAction Document := do
  let resource ← requireResource endpoint.type id
  let included ← includeFor api.schema endpoint.type endpoint.config parameters [resource]
  api.assembler.assemble api.schema (.single (some resource)) included none request.url
    parameters.fields

/-- The primary data for related resources: a page of them, or the only one. -/
def relatedData (config : ResourceConfig) (relationship : Relationship) (parameters : Parameters)
    (related : List Instance) : Except RequestError (PrimaryData × Option Page) :=
  if relationship.isToMany then do
    let request ← (parameters.page config.pageSize config.maxPageSize).mapError .page
    let page := paginate related.length request
    let (start, stop) := page.range
    .ok (.collection ((related.take stop).drop start), some page)
  else .ok (.single related.head?, none)

/-- The resources related to one. Paging and inclusion follow the settings of the related type, if it is
served. -/
def relatedDocument (api : Api) (endpoint : Endpoint) (request : Request) (id : String)
    (relationship : Relationship) (parameters : Parameters) : SourceAction Document := do
  match api.schema.type? relationship.target with
  | none => throw (.notFound s!"No such type {relationship.target}")
  | some target =>
    let _ ← requireResource endpoint.type id
    let related ← loadTargets api.schema endpoint.type relationship id
    let config := (api.resources.get? target.name).getD endpoint.config
    let (data, page) ← Store.Action.ofExcept (relatedData config relationship parameters related)
    let included ← includeFor api.schema target config parameters data.resources
    api.assembler.assemble api.schema data included page request.url parameters.fields

/-- The linkage of one relationship of a resource. -/
def relationshipDocument (api : Api) (endpoint : Endpoint) (id : String)
    (relationship : Relationship) : SourceAction Document := do
  let _ ← requireResource endpoint.type id
  let related ← loadTargets api.schema endpoint.type relationship id
  return api.assembler.linkageDocument endpoint.type.name id relationship
    (.ofTargets relationship related)

/-- Answers with a document, between the processors of the operation. -/
def answerDocument (endpoint : Endpoint) (context : Context) (document : Handler Document) :
    Handler Response := do
  Handler.preprocess context (endpoint.config.before context.operation)
  let document ← document
  let document ← Handler.postprocess context document (endpoint.config.after context.operation)
  return .ofDocument 200 document

def getCollection (api : Api) (now : Timestamp) (endpoint : Endpoint) (request : Request) :
    Handler Response :=
  let context : Context :=
    { operation := .getCollection, type := endpoint.type.name, request := request }
  answerDocument endpoint context do
    let parameters ← Handler.ofExcept (parametersOf request)
    Handler.source (collectionDocument api now endpoint request parameters)

def getResource (api : Api) (endpoint : Endpoint) (request : Request) (id : String) :
    Handler Response :=
  let context : Context :=
    { operation := .getResource, type := endpoint.type.name, id := some id, request := request }
  answerDocument endpoint context do
    let parameters ← Handler.ofExcept (parametersOf request)
    Handler.source (resourceDocument api endpoint request id parameters)

def getRelated (api : Api) (endpoint : Endpoint) (request : Request) (id : String)
    (relationship : Relationship) : Handler Response :=
  let context : Context :=
    { operation := .getRelated
      type := endpoint.type.name
      id := some id
      relationship := some relationship.name
      request := request }
  answerDocument endpoint context do
    let parameters ← Handler.ofExcept (parametersOf request)
    Handler.source (relatedDocument api endpoint request id relationship parameters)

def getRelationship (api : Api) (endpoint : Endpoint) (request : Request) (id : String)
    (relationship : Relationship) : Handler Response :=
  let context : Context :=
    { operation := .getRelationship
      type := endpoint.type.name
      id := some id
      relationship := some relationship.name
      request := request }
  answerDocument endpoint context
    (Handler.source (relationshipDocument api endpoint id relationship))

end ResourceServer.Api
