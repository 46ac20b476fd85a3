import ResourceServer.Api.Exchange
import ResourceServer.Rendering
import ResourceServer.Url.Reader
/-! What an API serves and where: registered types and their settings. -/

namespace ResourceServer.Api

/-- The settings of one type. -/
structure ResourceConfig where
  urlPath : Option String := none
  verbs : Option (List Verb) := none
  pageSize : Nat := 10
  maxPageSize : Nat := 100
  includes : List String := []
  only : Option (List String) := none
  exclude : List String := []
  allowReplacement : Bool := false
  allowRemoval : Bool := false
  allowClientIds : Bool := false
  serializer : Option Serializer := none
  preprocessors : List (Operation × Preprocessor) := []
  postprocessors : List (Operation × Postprocessor) := []

namespace ResourceConfig

def allows (config : ResourceConfig) (verb : Verb) : Bool :=
  config.verbs.all fun verbs => verbs.contains verb

/-- Fields may be restricted by naming those to show or those to hide, but not by both. -/
def visibility (config : ResourceConfig) : Except RequestError Visibility :=
  match config.only, config.exclude with
  | some _, _ :: _ => .error (.badRequest "Cannot restrict fields with both only and exclude")
  | some names, [] => .ok (.only names)
  | none, [] => .ok .all
  | none, names => .ok (.except names)

/-- The processors of an operation, in the order in which they were added. -/
def before (config : ResourceConfig) (operation : Operation) : List Preprocessor :=
  config.preprocessors.filterMap fun entry =>
    if entry.1 = operation then some entry.2 else none

def after (config : ResourceConfig) (operation : Operation) : List Postprocessor :=
  config.postprocessors.filterMap fun entry =>
    if entry.1 = operation then some entry.2 else none

end ResourceConfig

/-- Where an API is found, and under which path its types are unless they say otherwise. -/
structure ApiConfig where
  baseUrl : String := ""
  urlPath : String := "/api"

end Api

/-- A schema served under URLs. -/
structure Api where
  schema : Schema
  config : Api.ApiConfig
  resources : Keyed Api.ResourceConfig
  assembler : Assembler

namespace Api

/-- An API that serves no type yet. -/
def ofSchema (schema : Schema) (config : ApiConfig) : Api :=
  ⟨schema, config, [], .below (config.baseUrl ++ config.urlPath)⟩

/-- The URL of a type's collection, which may leave out everything before the path. -/
def collectionUrl (config : ApiConfig) (type : String) (resource : ResourceConfig) : String :=
  let path := Text.trimEnd '/' (resource.urlPath.getD config.urlPath)
  s!"{config.baseUrl}{path}/{type}"

/-- Registers a type, replacing an earlier registration. -/
def register (api : Api) (type : String) (resource : ResourceConfig) :
    Except RequestError Api := do
  if (api.schema.type? type).isNone then throw (.notFound s!"No such type {type}")
  let visibility ← resource.visibility
  let assembler := (api.assembler.setCollectionUrl type (collectionUrl api.config type resource))
    |>.setVisibility type visibility
  let assembler := match resource.serializer with
    | some serializer => assembler.setSerializer type serializer
    | none => assembler
  .ok { api with resources := api.resources.put type resource, assembler := assembler }

/-- What a path is about, below the collection of a type. -/
inductive Route
  | collection
  | resource (id : String)
  | related (id relationship : String)
  | relationship (id relationship : String)
  deriving DecidableEq

/-- A type that is served, with its settings. -/
structure Endpoint where
  type : EntityType
  config : ResourceConfig

/-- The path at which a collection is found. -/
def collectionPath (config : ApiConfig) (type : String) (resource : ResourceConfig) : String :=
  let url := collectionUrl config type resource
  match Url.read url with
  | .ok url => url.path
  | .error _ => url

/-- The segments of a path below a collection; none if it is not below it. -/
def segmentsBelow? (collection path : String) : Option (List String) :=
  match Text.dropStart? collection.toList (Text.trimEnd '/' path).toList with
  | none => none
  | some [] => some []
  | some ('/' :: rest) => some ((Text.splitChars '/' [] rest).map String.ofList)
  | some _ => none

def routeOf? : List String → Option Route
  | [] => some .collection
  | [id] => some (.resource id)
  | [id, relationship] => some (.related id relationship)
  | [id, "relationships", relationship] => some (.relationship id relationship)
  | _ => none

/-- Looks a path up among registered types. The first type whose collection the path is below decides. -/
def routeAmong (schema : Schema) (config : ApiConfig) (path : String) :
    List (String × ResourceConfig) → Option (Endpoint × Route)
  | [] => none
  | (name, resource) :: rest =>
    match schema.type? name, segmentsBelow? (collectionPath config name resource) path with
    | some type, some segments =>
      (routeOf? segments).map fun route => (⟨type, resource⟩, route)
    | _, _ => routeAmong schema config path rest

def route (api : Api) (path : String) : Except RequestError (Endpoint × Route) :=
  match routeAmong api.schema api.config path api.resources with
  | some found => .ok found
  | none => .error (.notFound s!"No resource at {path}")

end Api

end ResourceServer
