import ResourceServer.Api.Exchange
import ResourceServer.Linkage
/-! The bodies of requests: resource objects and linkage. -/

namespace ResourceServer.Api

/-- The data member of a request's body. -/
def requestData (request : Request) : Except RequestError Json :=
  match request.body.bind fun body => body.get? "data" with
  | some data => .ok data
  | none => .error (.badRequest "Request body must have a \"data\" member")

/-- Checks that a resource object is of a type. -/
def checkType (type : EntityType) (data : Json) : Except RequestError Unit :=
  match (data.get? "type").bind Json.string? with
  | some name =>
    if name = type.name then .ok ()
    else .error (.conflict s!"Type must be {type.name}, not {name}")
  | none => .error (.badRequest "Resource object must have a \"type\" member")

/-- Checks that a resource object has the identity that the URL names. -/
def checkId (id : String) (data : Json) : Except RequestError Unit :=
  match (data.get? "id").bind Identifier.idText? with
  | some other =>
    if other = id then .ok () else .error (.conflict s!"ID must be {id}, not {other}")
  | none => .error (.badRequest "Resource object must have an \"id\" member")

/-- The members of an object that is a member of a resource object; without it there are none. -/
def innerMembers (data : Json) (name : String) : Except RequestError (Keyed Json) :=
  match data.get? name with
  | none => .ok []
  | some (.object members) => .ok members
  | some _ => .error (.badRequest s!"The \"{name}\" member must be an object")

def readAttribute (type : EntityType) (member : String × Json) :
    Except RequestError (String × Value) :=
  let (name, json) := member
  match type.attributes.find? fun field => field.name = name with
  | none => .error (.badRequest s!"Type {type.name} has no attribute {name}")
  | some field =>
    match field.type.ofJson? json with
    | some value => .ok (name, value)
    | none =>
      .error (.badRequest s!"{json.render} is not a valid {field.type.name} for attribute {name}")

/-- The values of the attributes that a resource object gives. -/
def readAttributes (type : EntityType) (data : Json) : Except RequestError (Keyed Value) := do
  (← innerMembers data "attributes").mapM (readAttribute type)

def readRelationship (type : EntityType) (member : String × Json) :
    Except RequestError (Relationship × Linkage) :=
  let (name, json) := member
  match type.relationship? name with
  | none => .error (.badRequest s!"Type {type.name} has no relationship {name}")
  | some relationship =>
    match json.get? "data" with
    | none => .error (.badRequest s!"Relationship {name} must have a \"data\" member")
    | some data => (Linkage.ofJson relationship data).map fun linkage => (relationship, linkage)

/-- The linkage of the relationships that a resource object gives. -/
def readRelationships (type : EntityType) (data : Json) :
    Except RequestError (List (Relationship × Linkage)) := do
  (← innerMembers data "relationships").mapM (readRelationship type)

/-- Adds the identity that a client chose, if it may choose one. -/
def addClientId (type : EntityType) (allowed : Bool) (data : Json) (values : Keyed Value) :
    Except RequestError (Keyed Value) :=
  match data.get? "id" with
  | none => .ok values
  | some json =>
    if !allowed then .error (.forbidden "Server does not allow client-generated IDs")
    else
      match (Identifier.idText? json).bind type.readId? with
      | some id => .ok (values.put type.identity.name id)
      | none => .error (.badRequest s!"Invalid ID {json.render}")

end ResourceServer.Api
