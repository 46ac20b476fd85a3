import ResourceServer.Source
import ResourceServer.Text.Split
/-! Resources included in a document along paths of relationships. -/

namespace ResourceServer

/-- Paths that share their beginnings. Children are in the order in which they were asked for. -/
inductive PathTree
  | node (children : List (String × PathTree))

namespace PathTree

def empty : PathTree := .node []

def children : PathTree → List (String × PathTree)
  | .node children => children

/-- Changes the child of a name, or adds one. -/
def changeChild (name : String) (change : PathTree → PathTree) :
    List (String × PathTree) → List (String × PathTree)
  | [] => [(name, change empty)]
  | (other, child) :: rest =>
    if other = name then (other, change child) :: rest
    else (other, child) :: changeChild name change rest

def insert : List String → PathTree → PathTree
  | [], tree => tree
  | name :: rest, .node children => .node (changeChild name (insert rest) children)

/-- The tree of some paths whose segments are joined by points. -/
def ofPaths (paths : List String) : PathTree :=
  paths.foldl (fun tree path => insert (Text.split '.' path) tree) empty

mutual

/-- The length of the longest path. -/
def depth : PathTree → Nat
  | .node children => childDepth children

def childDepth : List (String × PathTree) → Nat
  | [] => 0
  | (_, child) :: rest => max (depth child + 1) (childDepth rest)

end

mutual

/-- Checks that every segment is a relationship of the type reached there. -/
def check (schema : Schema) (type : EntityType) : PathTree → Except RequestError Unit
  | .node children => checkChildren schema type children

def checkChildren (schema : Schema) (type : EntityType) :
    List (String × PathTree) → Except RequestError Unit
  | [] => .ok ()
  | (name, child) :: rest =>
    match (type.relationship? name).bind fun relationship => schema.type? relationship.target with
    | none => .error (.badRequest s!"Invalid include: No such relationship {name}")
    | some target => do
      check schema target child
      checkChildren schema type rest

end

end PathTree

namespace Inclusion

/-- Resources reached by following some paths, and the paths that go on from there. -/
structure Front where
  type : EntityType
  resources : List Instance
  tree : PathTree

/-- The resources met so far, and those of them that are included, the last first. -/
structure Progress where
  met : List Identifier
  included : List Instance

namespace Progress

def visit (progress : Progress) (resource : Instance) : Progress :=
  if progress.met.contains resource.identifier then progress
  else ⟨resource.identifier :: progress.met, resource :: progress.included⟩

end Progress

/-- Resources without those whose identifier came before. -/
def distinct (seen : List Identifier) : List Instance → List Instance
  | [] => []
  | resource :: rest =>
    if seen.contains resource.identifier then distinct seen rest
    else resource :: distinct (resource.identifier :: seen) rest

/-- Follows one relationship from the resources of a front. -/
def followChild (schema : Schema) (front : Front) (progress : Progress) (name : String)
    (child : PathTree) : SourceAction (Progress × List Front) := do
  match front.type.relationship? name, schema.targetOf? front.type.name name with
  | some relationship, some target =>
    let owners := front.resources.map Instance.id
    let links ← SourceAction.reading (Mapping.loadRelation schema front.type relationship owners)
    let reached := owners.eraseDups.flatMap links.of
    let next := if child.children.isEmpty then [] else distinct [] reached
    return (reached.foldl Progress.visit progress, [⟨target, next, child⟩])
  | _, _ => return (progress, [])

/-- Follows all relationships that a front asks for; one without resources has nothing to follow. -/
def followFront (schema : Schema) (front : Front) (progress : Progress) :
    SourceAction (Progress × List Front) :=
  if front.resources.isEmpty then return (progress, [])
  else
    front.tree.children.foldlM (fun (progress, fronts) (name, child) => do
      let (progress, more) ← followChild schema front progress name child
      return (progress, fronts ++ more)) (progress, [])

/-- Follows all fronts by one relationship at a time, for a number of levels. -/
def followLevels (schema : Schema) : Nat → List Front → Progress → SourceAction Progress
  | 0, _, progress => return progress
  | levels + 1, fronts, progress => do
    let (progress, fronts) ← fronts.foldlM (fun (progress, fronts) front => do
      let (progress, more) ← followFront schema front progress
      return (progress, fronts ++ more)) (progress, [])
    followLevels schema levels fronts progress

/-- The resources reached from the roots along the beginnings of some paths, without the roots, nearer ones
first. -/
def resolve (schema : Schema) (type : EntityType) (roots : List Instance) (paths : List String) :
    SourceAction (List Instance) := do
  let tree := PathTree.ofPaths paths
  Store.Action.ofExcept (tree.check schema type)
  let start : Progress := ⟨roots.map (·.identifier), []⟩
  let progress ← followLevels schema tree.depth [⟨type, roots, tree⟩] start
  return progress.included.reverse

end Inclusion

end ResourceServer
