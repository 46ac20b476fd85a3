import ResourceServer.Inclusion
import ResourceServer.Proofs.References
import ResourceServer.Proofs.Subqueries

/-! Paths of relationships: the types that they lead to, and the trees of their beginnings. -/

namespace ResourceServer

open ResourceServer.Mapping

def typeAlong (schema : Schema) (type : EntityType) (path : List String) : Option EntityType :=
  path.foldlM (fun type name => (findRelationship schema type name).toOption.map Prod.snd) type

section

variable {schema : Schema} {base type target : EntityType} {relationship : Relationship}
  {name : String} {path followed : List String}

theorem typeAlong_next (along : typeAlong schema base followed = some type)
    (found : findRelationship schema type relationship.name = .ok (relationship, target)) :
    typeAlong schema base (followed ++ [relationship.name]) = some target := by
  unfold typeAlong at along ⊢
  rw [List.foldlM_append, along, Option.bind_eq_bind, Option.bind_some, List.foldlM_cons, found]
  rfl

theorem typeAlong_cons (found : findRelationship schema type name = .ok (relationship, target)) :
    typeAlong schema type (name :: path) = typeAlong schema target path := by
  unfold typeAlong
  rw [List.foldlM_cons, found]
  rfl

theorem typeAlong_lost {error : MappingError}
    (lost : findRelationship schema type name = .error error) :
    typeAlong schema type (name :: path) = none := by
  unfold typeAlong
  rw [List.foldlM_cons, lost]
  rfl

theorem typeAlong_append (path rest : List String) :
    typeAlong schema type (path ++ rest) =
      (typeAlong schema type path).bind fun reached => typeAlong schema reached rest := by
  unfold typeAlong
  rw [List.foldlM_append, Option.bind_eq_bind]

theorem typeAlong_known (known : type ∈ schema.types) (along : typeAlong schema type path = some target) :
    target ∈ schema.types := by
  induction path generalizing type with
  | nil =>
      cases along
      exact known
  | cons name rest ih =>
      cases found : findRelationship schema type name with
      | error error =>
          rw [typeAlong_lost found] at along
          cases along
      | ok both =>
          rw [typeAlong_cons found] at along
          exact ih (findRelationship_ok found).2.2.1 along

/-- What is found by a name is a relationship of the type, which has that name. -/
theorem findRelationship_relates (known : type ∈ schema.types)
    (found : findRelationship schema type name = .ok (relationship, target)) :
    schema.Relates type relationship target ∧ type.relationship? name = some relationship := by
  have own := (findRelationship_ok found).1
  unfold findRelationship at found
  split at found
  · cases found
  · rename_i other named
    obtain ⟨_, leads, same⟩ := map_ok found
    cases same
    exact ⟨⟨known, own, findType_found leads⟩, named⟩

theorem relationship?_name (named : type.relationship? name = some relationship) :
    relationship.name = name := by
  simpa using List.find?_some named

theorem findRelationship_lost (formed : schema.Formed) (known : type ∈ schema.types) :
    (∃ error, findRelationship schema type name = .error error) ↔ type.relationship? name = none := by
  unfold findRelationship
  cases named : type.relationship? name with
  | none => simp
  | some relationship =>
      obtain ⟨target, leads⟩ := Option.isSome_iff_exists.mp
        (formed.targets type known relationship (List.mem_of_find?_eq_some named))
      simp [findType, leads, Except.map]

theorem typeAlong_none (formed : schema.Formed) (known : type ∈ schema.types) :
    typeAlong schema type path = none ↔ ∃ before name after, path = before ++ name :: after ∧
      ∃ reached, typeAlong schema type before = some reached ∧ reached.relationship? name = none := by
  induction path generalizing type with
  | nil => simp [typeAlong]
  | cons first rest ih =>
      cases found : findRelationship schema type first with
      | error error =>
          refine iff_of_true (typeAlong_lost found) ⟨[], first, rest, rfl, type, rfl, ?_⟩
          exact (findRelationship_lost formed known).mp ⟨error, found⟩
      | ok both =>
          obtain ⟨relationship, target⟩ := both
          obtain ⟨_, _, known', _⟩ := findRelationship_ok found
          rw [typeAlong_cons found, ih known']
          constructor
          · rintro ⟨before, name, after, rfl, reached, along, lost⟩
            exact ⟨first :: before, name, after, rfl, reached, (typeAlong_cons found).trans along, lost⟩
          · rintro ⟨before, name, after, cut, reached, along, lost⟩
            cases before with
            | nil =>
                cases cut
                cases along
                obtain ⟨error, none⟩ := (findRelationship_lost formed known).mpr lost
                cases found.symm.trans none
            | cons other before =>
                cases cut
                rw [typeAlong_cons found] at along
                exact ⟨before, name, after, rfl, reached, along, lost⟩

end

namespace PathTree

def Has : PathTree → List String → Prop
  | _, [] => True
  | .node children, name :: rest => ∃ child, (name, child) ∈ children ∧ child.Has rest

section

variable {schema : Schema} {name : String} {path rest : List String} {tree child : PathTree}
  {children : List (String × PathTree)}

theorem has_nil (tree : PathTree) : tree.Has [] := by
  unfold Has
  trivial

theorem has_cons : tree.Has (name :: rest) ↔ ∃ child, (name, child) ∈ tree.children ∧ child.Has rest := by
  cases tree
  rfl

theorem has_empty : empty.Has path ↔ path = [] := by
  cases path with
  | nil => exact iff_of_true (has_nil _) rfl
  | cons name rest => simp [has_cons, empty, children]

theorem has_children_cons :
    (node ((name, child) :: children)).Has path ↔
      (∃ rest, path = name :: rest ∧ child.Has rest) ∨ (node children).Has path := by
  cases path with
  | nil => exact iff_of_true (has_nil _) (.inr (has_nil _))
  | cons first rest =>
      simp only [has_cons, PathTree.children, List.mem_cons, Prod.mk.injEq, List.cons.injEq]
      constructor
      · rintro ⟨below, ⟨rfl, rfl⟩ | inside, has⟩
        · exact .inl ⟨rest, ⟨rfl, rfl⟩, has⟩
        · exact .inr ⟨below, inside, has⟩
      · rintro (⟨_, ⟨rfl, rfl⟩, has⟩ | ⟨below, inside, has⟩)
        · exact ⟨child, .inl ⟨rfl, rfl⟩, has⟩
        · exact ⟨below, .inr inside, has⟩

theorem has_changeChild {change : PathTree → PathTree}
    (changed : ∀ tree path, (change tree).Has path ↔ tree.Has path ∨ path <+: rest) :
    (node (changeChild name change children)).Has path ↔
      (node children).Has path ∨ path <+: name :: rest := by
  have begins : path <+: name :: rest ↔ path = [] ∨ ∃ after, path = name :: after ∧ after <+: rest := by
    cases path with
    | nil => simp
    | cons first after => simp [List.cons_prefix_cons]
  induction children with
  | nil =>
      unfold changeChild
      simp only [has_children_cons, changed, has_empty, begins]
      constructor
      · rintro (⟨after, rfl, rfl | inside⟩ | none)
        · exact .inr (.inr ⟨[], rfl, List.nil_prefix⟩)
        · exact .inr (.inr ⟨after, rfl, inside⟩)
        · exact .inl none
      · rintro (none | rfl | ⟨after, rfl, inside⟩)
        · exact .inr none
        · exact .inr (has_nil _)
        · exact .inl ⟨after, rfl, .inr inside⟩
  | cons entry others ih =>
      obtain ⟨other, child⟩ := entry
      unfold changeChild
      split
      · rename_i same
        subst same
        simp only [has_children_cons, changed, begins]
        constructor
        · rintro (⟨after, rfl, has | inside⟩ | has)
          · exact .inl (.inl ⟨after, rfl, has⟩)
          · exact .inr (.inr ⟨after, rfl, inside⟩)
          · exact .inl (.inr has)
        · rintro ((⟨after, rfl, has⟩ | has) | rfl | ⟨after, rfl, inside⟩)
          · exact .inl ⟨after, rfl, .inl has⟩
          · exact .inr has
          · exact .inr (has_nil _)
          · exact .inl ⟨after, rfl, .inr inside⟩
      · simp only [has_children_cons, ih, or_assoc]

theorem has_insert (inserted : List String) :
    (insert inserted tree).Has path ↔ tree.Has path ∨ path <+: inserted := by
  induction inserted generalizing tree path with
  | nil =>
      unfold insert
      rw [List.prefix_nil]
      exact (or_iff_left_of_imp fun none => none ▸ has_nil tree).symm
  | cons name rest ih =>
      cases tree with
      | node children =>
          unfold insert
          exact has_changeChild fun tree path => ih

def ofSegments (paths : List (List String)) : PathTree :=
  paths.foldl (fun tree path => insert path tree) empty

theorem ofPaths_eq (texts : List String) : ofPaths texts = ofSegments (texts.map (Text.split '.')) := by
  unfold ofPaths ofSegments
  rw [List.foldl_map]

theorem has_ofSegments (paths : List (List String)) :
    (ofSegments paths).Has path ↔ path = [] ∨ ∃ asked ∈ paths, path <+: asked := by
  have grown (tree : PathTree) :
      (paths.foldl (fun tree path => insert path tree) tree).Has path ↔
        tree.Has path ∨ ∃ asked ∈ paths, path <+: asked := by
    induction paths generalizing tree with
    | nil => simp
    | cons first others ih => rw [List.foldl_cons, ih, has_insert, or_assoc, List.exists_mem_cons_iff]
  unfold ofSegments
  rw [grown, has_empty]

theorem has_ofPaths (paths : List String) :
    (ofPaths paths).Has path ↔ path = [] ∨ ∃ text ∈ paths, path <+: Text.split '.' text := by
  rw [ofPaths_eq, has_ofSegments]
  simp

theorem check_step (schema : Schema) (type : EntityType) (name : String) :
    ((type.relationship? name).bind fun relationship => schema.type? relationship.target) =
      (findRelationship schema type name).toOption.map Prod.snd := by
  unfold findRelationship
  cases type.relationship? name with
  | none => rfl
  | some relationship =>
      dsimp only [findType, Option.bind_some]
      cases schema.type? relationship.target <;> rfl

mutual

theorem check_ok (schema : Schema) (type : EntityType) :
    ∀ tree : PathTree, tree.check schema type = .ok () ↔
      ∀ path, tree.Has path → (typeAlong schema type path).isSome
  | .node children => by
      unfold check
      exact checkChildren_ok schema type children

theorem checkChildren_ok (schema : Schema) (type : EntityType) :
    ∀ children, checkChildren schema type children = .ok () ↔
      ∀ path, (node children).Has path → (typeAlong schema type path).isSome
  | [] => by
      unfold checkChildren
      refine iff_of_true rfl fun path has => ?_
      rw [has_empty.mp has]
      rfl
  | (name, child) :: rest => by
      have others := checkChildren_ok schema type rest
      have own : name :: [] = [name] := rfl
      unfold checkChildren
      rw [check_step]
      cases found : findRelationship schema type name with
      | error error =>
          refine iff_of_false nofun fun all => ?_
          have some := all [name] (has_children_cons.mpr (.inl ⟨[], rfl, has_nil child⟩))
          rw [typeAlong_lost found] at some
          cases some
      | ok both =>
          obtain ⟨relationship, target⟩ := both
          have below := check_ok schema target child
          have both : (do
              check schema target child
              checkChildren schema type rest) = .ok () ↔
              check schema target child = .ok () ∧ checkChildren schema type rest = .ok () := by
            cases check schema target child with
            | error error => exact iff_of_false nofun fun both => nomatch both.1
            | ok value => exact ⟨fun last => ⟨rfl, last⟩, And.right⟩
          dsimp only [Except.toOption, Option.map]
          rw [both, below, others]
          constructor
          · rintro ⟨first, later⟩ path has
            rcases has_children_cons.mp has with ⟨after, rfl, inside⟩ | inside
            · rw [typeAlong_cons found]
              exact first after inside
            · exact later path inside
          · intro all
            refine ⟨fun path has => ?_, fun path has => all path (has_children_cons.mpr (.inr has))⟩
            have some := all (name :: path) (has_children_cons.mpr (.inl ⟨path, rfl, has⟩))
            rwa [typeAlong_cons found] at some

end

mutual

theorem check_status {type : EntityType} {error : RequestError} :
    ∀ tree : PathTree, tree.check schema type = .error error → error.status = 400
  | .node children => fun failed => by
      unfold check at failed
      exact checkChildren_status children failed

theorem checkChildren_status {type : EntityType} {error : RequestError} :
    ∀ children, checkChildren schema type children = .error error → error.status = 400
  | [] => nofun
  | (name, child) :: rest => fun failed => by
      unfold checkChildren at failed
      split at failed
      · cases failed
        rfl
      · rename_i target _
        cases below : check schema target child with
        | error other =>
            rw [below] at failed
            cases failed
            exact check_status child below
        | ok value =>
            rw [below] at failed
            exact checkChildren_status rest failed

end

mutual

theorem has_length : ∀ (tree : PathTree) {path : List String}, tree.Has path →
    path.length ≤ tree.depth
  | .node children, _, has => by
      unfold depth
      exact childDepth_length children has

theorem childDepth_length : ∀ (children : List (String × PathTree)) {path : List String},
    (node children).Has path → path.length ≤ childDepth children
  | [], _, has => by
      rw [has_empty.mp has]
      exact Nat.zero_le _
  | (name, child) :: rest, _, has => by
      unfold childDepth
      rcases has_children_cons.mp has with ⟨after, rfl, inside⟩ | inside
      · exact le_max_of_le_left (Nat.succ_le_succ (has_length child inside))
      · exact le_max_of_le_right (childDepth_length rest inside)

end

end

end PathTree

end ResourceServer
