import ResourceServer.Document
import ResourceServer.Linkage
import ResourceServer.Parameters
import ResourceServer.Source
import ResourceServer.Url.Basic
/-! Rendering resources as JSON and assembling documents of them. -/

namespace ResourceServer

open ResourceServer.Paging

/-- Which members of a type may be seen. -/
inductive Visibility
  | all
  | only (names : List String)
  | except (names : List String)
  deriving DecidableEq

namespace Visibility

def exposes (visibility : Visibility) (name : String) : Bool :=
  match visibility with
  | .all => true
  | .only names => names.contains name
  | .except names => !names.contains name

end Visibility

/-- A resource that could not be rendered. -/
structure RenderError where
  resource : Identifier
  detail : String
  deriving DecidableEq

namespace RenderError

def message (error : RenderError) : String :=
  s!"Failed to serialize {error.resource.text}: {error.detail}"

end RenderError

/-- A resource with all that its rendering needs. -/
structure Rendered where
  type : EntityType
  resource : Instance
  relationships : List (Relationship × Linkage)
  fieldset : Option (List String)
  visibility : Visibility
  url : String

namespace Rendered

/-- Whether a member is to be shown: it is visible and in the fieldset, if there is one. -/
def shows (rendered : Rendered) (name : String) : Bool :=
  rendered.visibility.exposes name && rendered.fieldset.all fun names => names.contains name

end Rendered

/-- A way to write resources as JSON. -/
abbrev Serializer := Rendered → Except RenderError Json

namespace Serializer

/-- The attributes that are shown; a value that was never set is null. -/
def attributes (rendered : Rendered) : Except RenderError (List (String × Json)) :=
  (rendered.type.attributes.filter fun field => rendered.shows field.name).mapM fun field =>
    match ((rendered.resource.get? field.name).getD .null).toJson? with
    | some json => .ok (field.name, json)
    | none =>
      .error ⟨rendered.resource.identifier, s!"{field.name} has no JSON representation"⟩

def relationship (url : String) (entry : Relationship × Linkage) : String × Json :=
  let name := entry.1.name
  (name, .object [
    ("data", entry.2.toJson),
    ("links", .object [
      ("related", .string s!"{url}/{name}"),
      ("self", .string s!"{url}/relationships/{name}")])])

/-- Identity, attributes and relationships, of which empty ones are left out, and without a fieldset a link
to the resource itself. -/
def default : Serializer := fun rendered => do
  let attributes ← attributes rendered
  let relationships := rendered.relationships.map (relationship rendered.url)
  let filled (name : String) (members : List (String × Json)) : List (String × Json) :=
    if members.isEmpty then [] else [(name, .ofMembers members)]
  let links :=
    if rendered.fieldset.isNone then [("links", Json.object [("self", .string rendered.url)])] else []
  .ok (.ofMembers ([("id", Json.string rendered.resource.id), ("type", .string rendered.type.name)]
    ++ filled "attributes" attributes ++ filled "relationships" relationships ++ links))

end Serializer

/-- What a document is made from besides its resources: where collections are found, what may be seen of
each type, and how it is written. -/
structure Assembler where
  baseUrl : String
  collectionUrls : Keyed String := []
  serializers : Keyed Serializer := []
  visibilities : Keyed Visibility := []

namespace Assembler

/-- An assembler for collections below a URL. -/
def below (baseUrl : String) : Assembler := { baseUrl := Text.trimEnd '/' baseUrl }

def setCollectionUrl (assembler : Assembler) (type url : String) : Assembler :=
  { assembler with collectionUrls := assembler.collectionUrls.put type (Text.trimEnd '/' url) }

def setSerializer (assembler : Assembler) (type : String) (serializer : Serializer) : Assembler :=
  { assembler with serializers := assembler.serializers.put type serializer }

def setVisibility (assembler : Assembler) (type : String) (visibility : Visibility) : Assembler :=
  { assembler with visibilities := assembler.visibilities.put type visibility }

def collectionUrl (assembler : Assembler) (type : String) : String :=
  (assembler.collectionUrls.get? type).getD s!"{assembler.baseUrl}/{type}"

def resourceUrl (assembler : Assembler) (type id : String) : String :=
  s!"{assembler.collectionUrl type}/{id}"

def visibility (assembler : Assembler) (type : String) : Visibility :=
  (assembler.visibilities.get? type).getD .all

def serializer (assembler : Assembler) (type : String) : Serializer :=
  (assembler.serializers.get? type).getD Serializer.default

/-- The relationships of a type that are shown. -/
def shownRelationships (assembler : Assembler) (type : EntityType) (fieldsets : Fieldsets) :
    List Relationship :=
  type.relationships.filter fun relationship =>
    (assembler.visibility type.name).exposes relationship.name &&
      (fieldsets.get? type.name).all fun names => names.contains relationship.name

/-- The links of one relationship of one type. -/
structure LoadedLinks where
  type : String
  relationship : String
  links : Mapping.Links

/-- Loads the links of all relationships that some resources show, once for every type and relationship. -/
def loadLinks (assembler : Assembler) (schema : Schema) (resources : List Instance)
    (fieldsets : Fieldsets) : SourceAction (List LoadedLinks) := do
  let present := schema.types.filter fun type => resources.any fun resource => resource.type = type.name
  let loaded ← present.mapM fun type => do
    let owners := (resources.filter fun resource => resource.type = type.name).map Instance.id
    (assembler.shownRelationships type fieldsets).mapM fun relationship => do
      let links ← SourceAction.reading (Mapping.loadRelation schema type relationship owners)
      return (⟨type.name, relationship.name, links⟩ : LoadedLinks)
  return loaded.flatten

/-- The resources that a relationship links to an owner, as far as they are loaded. -/
def linkedTo (loaded : List LoadedLinks) (type relationship owner : String) : List Instance :=
  match loaded.find? fun entry => entry.type = type && entry.relationship = relationship with
  | some entry => entry.links.of owner
  | none => []

/-- One resource in JSON. -/
def renderOne (assembler : Assembler) (schema : Schema) (loaded : List LoadedLinks)
    (fieldsets : Fieldsets) (resource : Instance) : Except RenderError Json :=
  match schema.type? resource.type with
  | none => .error ⟨resource.identifier, "unknown type"⟩
  | some type =>
    let relationships := (assembler.shownRelationships type fieldsets).map fun relationship =>
      (relationship,
        Linkage.ofTargets relationship (linkedTo loaded type.name relationship.name resource.id))
    assembler.serializer type.name
      { type := type
        resource := resource
        relationships := relationships
        fieldset := fieldsets.get? type.name
        visibility := assembler.visibility type.name
        url := assembler.resourceUrl type.name resource.id }

/-- The successes and the failures of some results, each in order. -/
def partition {ε α : Type} : List (Except ε α) → List α × List ε
  | [] => ([], [])
  | .ok value :: rest => (value :: (partition rest).1, (partition rest).2)
  | .error error :: rest => ((partition rest).1, error :: (partition rest).2)

/-- Resources in JSON, and those that failed. -/
def render (assembler : Assembler) (schema : Schema) (resources : List Instance)
    (fieldsets : Fieldsets) : SourceAction (List Json × List RenderError) := do
  let loaded ← assembler.loadLinks schema resources fieldsets
  return partition (resources.map (assembler.renderOne schema loaded fieldsets))

end Assembler

/-- What a document is about: one resource or none, or a collection. -/
inductive PrimaryData
  | single (resource : Option Instance)
  | collection (resources : List Instance)

namespace PrimaryData

def resources : PrimaryData → List Instance
  | .single resource => resource.toList
  | .collection resources => resources

/-- The data member for the resources in JSON. -/
def toJson (data : PrimaryData) (objects : List Json) : Json :=
  match data with
  | .single _ => objects.getLast?.getD .null
  | .collection _ => .array objects

end PrimaryData

namespace Assembler

/-- The links and the meta information of a page. -/
def addPage (document : Document) (url : Url) (page : Page) : Document :=
  let links := page.neighbours.foldl (fun links (name, number) =>
    let link := match number with
      | some number => Json.string (url.withPage number).text
      | none => .null
    Keyed.put name link links) document.links
  { document with links := links, metadata := document.metadata.put "total" (.integer page.total) }

/-- The document for some data with what is included. If a resource can not be rendered there is none. -/
def assemble (assembler : Assembler) (schema : Schema) (data : PrimaryData)
    (included : Option (List Instance)) (page : Option Page) (url : Url)
    (fieldsets : Fieldsets) : SourceAction Document := do
  let (objects, failures) ← assembler.render schema data.resources fieldsets
  let (included, includedFailures) ←
    match included with
    | some resources => do
      let (objects, failures) ← assembler.render schema resources fieldsets
      pure (some objects, failures)
    | none => pure (none, [])
  let failures := failures ++ includedFailures
  if !failures.isEmpty then throw (.unrenderable (failures.map RenderError.message))
  let document : Document :=
    { data := some (data.toJson objects)
      included := included
      links := [("self", .string url.text)] }
  return match page with
    | some page => addPage document url page
    | none => document

/-- The document for the linkage of one relationship of a resource. -/
def linkageDocument (assembler : Assembler) (type id : String) (relationship : Relationship)
    (linkage : Linkage) : Document :=
  let url := assembler.resourceUrl type id
  { data := some linkage.toJson
    links := [("related", .string s!"{url}/{relationship.name}"),
      ("self", .string s!"{url}/relationships/{relationship.name}")] }

end Assembler

end ResourceServer
