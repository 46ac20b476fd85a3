import Mathlib.Data.List.Nodup
import ResourceServer.Proofs.Paths

/-! Trees of paths: the nodes are the beginnings of the paths, children come as they were first asked for, and no other
tree is like that. -/

namespace ResourceServer

section

variable {α β : Type}

theorem eraseDups_concat [DecidableEq β] (items : List β) (item : β) :
    (items ++ [item]).eraseDups = if item ∈ items then items.eraseDups else items.eraseDups ++ [item] := by
  rw [List.eraseDups_append]
  by_cases before : item ∈ items
  · simp [List.removeAll, before]
  · simp [List.removeAll, before, List.eraseDups_cons]

theorem eraseDups_ordered [DecidableEq β] (value? : α → Option β) (items : List α) :
    (items.filterMap value?).eraseDups.Pairwise fun earlier later =>
      items.findIdx (fun item => value? item = some earlier) <
        items.findIdx (fun item => value? item = some later) := by
  induction items using List.reverseRecOn with
  | nil => exact .nil
  | append_singleton items last ih =>
      -- A value that was given keeps its place; one that was not has the place of the last item.
      have within {value : β} (met : value ∈ (items.filterMap value?).eraseDups) :
          items.findIdx (fun item => value? item = some value) < items.length := by
        obtain ⟨item, inside, gives⟩ := List.mem_filterMap.mp (List.mem_eraseDups.mp met)
        exact List.findIdx_lt_length.mpr ⟨item, inside, decide_eq_true gives⟩
      have kept : (items.filterMap value?).eraseDups.Pairwise fun earlier later =>
          (items ++ [last]).findIdx (fun item => value? item = some earlier) <
            (items ++ [last]).findIdx (fun item => value? item = some later) := by
        refine ih.imp_of_mem fun first second before => ?_
        rwa [List.findIdx_append, if_pos (within first), List.findIdx_append, if_pos (within second)]
      rw [List.filterMap_append]
      cases given : value? last with
      | none =>
          have none : [last].filterMap value? = [] := by simp [given]
          rwa [none, List.append_nil]
      | some value =>
          have one : [last].filterMap value? = [value] := by simp [given]
          rw [one, eraseDups_concat]
          split
          · exact kept
          · rename_i fresh
            refine List.pairwise_append.mpr ⟨kept, List.pairwise_singleton _ _, fun earlier met later single => ?_⟩
            obtain rfl := List.mem_singleton.mp single
            have missed : ¬items.findIdx (fun item => value? item = some later) < items.length := by
              intro found
              obtain ⟨item, inside, gives⟩ := List.findIdx_lt_length.mp found
              exact fresh (List.mem_filterMap.mpr ⟨item, inside, of_decide_eq_true gives⟩)
            rw [List.findIdx_append, if_pos (within met), List.findIdx_append, if_neg missed]
            exact (within met).trans_le (Nat.le_add_left _ _)

theorem nodup_of_rising {place : β → Nat} {items : List β}
    (rising : items.Pairwise fun earlier later => place earlier < place later) : items.Nodup :=
  rising.imp fun before same => (same ▸ before).false

theorem findIdx_filterMap_lt (value? : α → Option β) (first second : β → Bool) (items : List α) :
    (items.filterMap value?).findIdx first < (items.filterMap value?).findIdx second ↔
      items.findIdx (fun item => (value? item).any first) <
        items.findIdx (fun item => (value? item).any second) := by
  induction items with
  | nil => rfl
  | cons item rest ih =>
      cases given : value? item with
      | none => simp [given, List.findIdx_cons, ih]
      | some value =>
          cases met : first value <;> cases met' : second value <;>
            simp [given, List.findIdx_cons, met, met', ih]

theorem eq_of_entries {entries others : List (β × α)} (named : entries.map Prod.fst = others.map Prod.fst)
    (same : ∀ name value other, (name, value) ∈ entries → (name, other) ∈ others → value = other) :
    entries = others := by
  induction entries generalizing others with
  | nil => exact (List.map_eq_nil_iff.mp named.symm).symm
  | cons entry rest ih =>
      cases others with
      | nil => cases named
      | cons other others =>
          obtain ⟨name, value⟩ := entry
          obtain ⟨name', value'⟩ := other
          obtain ⟨rfl, behind⟩ : name = name' ∧ rest.map Prod.fst = others.map Prod.fst := List.cons.inj named
          have here := same name value value' List.mem_cons_self List.mem_cons_self
          have there := ih behind fun name value other inside inside' =>
            same name value other (List.mem_cons_of_mem _ inside) (List.mem_cons_of_mem _ inside')
          rw [here, there]

end

namespace PathTree

def names (tree : PathTree) : List String :=
  tree.children.map Prod.fst

def Leads : PathTree → List String → PathTree → Prop
  | tree, [], reached => reached = tree
  | .node children, name :: rest, reached => ∃ child, (name, child) ∈ children ∧ child.Leads rest reached

def firstAsked (paths : List (List String)) (beginning : List String) : Nat :=
  paths.findIdx beginning.isPrefixOf

/-- The nodes below the root are the beginnings of some paths, and the children of each node have different names, in
the order in which the paths first ask for them. -/
structure Enumerates (tree : PathTree) (paths : List (List String)) : Prop where
  labels : ∀ path ≠ [], (∃ reached, tree.Leads path reached) ↔ ∃ asked ∈ paths, path <+: asked
  distinct : ∀ path reached, tree.Leads path reached → reached.names.Nodup
  ordered : ∀ path reached, tree.Leads path reached →
    reached.names.Pairwise fun earlier later =>
      firstAsked paths (path ++ [earlier]) < firstAsked paths (path ++ [later])

def onward (beginning : List String) (paths : List (List String)) : List (List String) :=
  paths.filterMap fun path => path.dropPrefix? beginning

/-- The children have the names that some paths begin with, each once, and below a child it is the same with what the
paths go on with after its name. -/
inductive Grown : List (List String) → PathTree → Prop
  | node {paths : List (List String)} {children : List (String × PathTree)}
      (named : children.map Prod.fst = (paths.filterMap List.head?).eraseDups)
      (below : ∀ entry ∈ children, Grown (onward [entry.1] paths) entry.2) : Grown paths (.node children)

section

variable {tree reached child : PathTree} {name : String} {path rest asked : List String}
  {paths : List (List String)} {children : List (String × PathTree)}

theorem leads_nil : tree.Leads [] reached ↔ reached = tree := by
  cases tree
  rfl

theorem leads_cons :
    tree.Leads (name :: rest) reached ↔ ∃ child, (name, child) ∈ tree.children ∧ child.Leads rest reached := by
  cases tree
  rfl

theorem has_iff_leads : tree.Has path ↔ ∃ reached, tree.Leads path reached := by
  induction path generalizing tree with
  | nil => exact iff_of_true (has_nil tree) ⟨tree, leads_nil.mpr rfl⟩
  | cons name rest ih =>
      simp only [has_cons, leads_cons, ih]
      constructor
      · rintro ⟨child, inside, reached, leads⟩
        exact ⟨reached, child, inside, leads⟩
      · rintro ⟨reached, child, inside, leads⟩
        exact ⟨child, inside, reached, leads⟩

theorem mem_names : name ∈ tree.names ↔ ∃ reached, tree.Leads [name] reached := by
  unfold names
  simp [leads_cons, leads_nil]

theorem mem_onward : rest ∈ onward path paths ↔ path ++ rest ∈ paths := by
  unfold onward
  simp [List.dropPrefix?_eq_some_iff]

theorem onward_nil (paths : List (List String)) : onward [] paths = paths := by
  unfold onward
  simp

theorem dropPrefix_cons (asked : List String) (name : String) (path : List String) :
    asked.dropPrefix? (name :: path) = (asked.dropPrefix? [name]).bind fun rest => rest.dropPrefix? path := by
  cases asked with
  | nil => rfl
  | cons first rest =>
      by_cases same : first = name
      · simp [List.dropPrefix?, same]
      · simp [List.dropPrefix?, same]

theorem onward_cons (name : String) (path : List String) (paths : List (List String)) :
    onward (name :: path) paths = onward path (onward [name] paths) := by
  unfold onward
  rw [List.filterMap_filterMap]
  exact congrArg (List.filterMap · paths) (funext fun asked => dropPrefix_cons asked name path)

theorem onward_concat (path : List String) (paths : List (List String)) (asked : List String) :
    onward path (paths ++ [asked]) = onward path paths ++ (asked.dropPrefix? path).toList := by
  unfold onward
  cases given : asked.dropPrefix? path <;> simp [given]

/-! One path more. -/

theorem names_changeChild (name : String) (change : PathTree → PathTree) (children : List (String × PathTree)) :
    (changeChild name change children).map Prod.fst =
      if name ∈ children.map Prod.fst then children.map Prod.fst else children.map Prod.fst ++ [name] := by
  induction children with
  | nil => rfl
  | cons entry others ih =>
      obtain ⟨other, child⟩ := entry
      unfold changeChild
      by_cases same : other = name
      · simp [same]
      · rw [if_neg same, List.map_cons, ih, List.map_cons]
        have differ : name ≠ other := fun equal => same equal.symm
        split <;> simp_all

theorem mem_changeChild {change : PathTree → PathTree} {entry : String × PathTree}
    (distinct : (children.map Prod.fst).Nodup) (inside : entry ∈ changeChild name change children) :
    (entry.1 ≠ name ∧ entry ∈ children) ∨
      (∃ child, (name, child) ∈ children ∧ entry = (name, change child)) ∨
      (name ∉ children.map Prod.fst ∧ entry = (name, change empty)) := by
  induction children with
  | nil => exact .inr (.inr ⟨List.not_mem_nil, List.mem_singleton.mp inside⟩)
  | cons first others ih =>
      obtain ⟨other, child⟩ := first
      obtain ⟨fresh, distinct⟩ := List.nodup_cons.mp distinct
      unfold changeChild at inside
      split at inside
      · rename_i same
        subst same
        rcases List.mem_cons.mp inside with rfl | inside
        · exact .inr (.inl ⟨child, List.mem_cons_self, rfl⟩)
        · refine .inl ⟨fun same => ?_, List.mem_cons_of_mem _ inside⟩
          exact fresh (List.mem_map.mpr ⟨entry, inside, same⟩)
      · rename_i differ
        rcases List.mem_cons.mp inside with rfl | inside
        · exact .inl ⟨differ, List.mem_cons_self⟩
        · rcases ih distinct inside with ⟨apart, inside⟩ | ⟨child, inside, changed⟩ | ⟨missing, added⟩
          · exact .inl ⟨apart, List.mem_cons_of_mem _ inside⟩
          · exact .inr (.inl ⟨child, List.mem_cons_of_mem _ inside, changed⟩)
          · refine .inr (.inr ⟨fun met => ?_, added⟩)
            rcases List.mem_cons.mp met with same | met
            · exact differ same.symm
            · exact missing met

theorem grown_empty : Grown [] empty := .node rfl nofun

theorem Grown.insert (grown : Grown paths tree) (path : List String) :
    Grown (paths ++ [path]) (insert path tree) := by
  induction path generalizing paths tree with
  | nil =>
      obtain ⟨named, below⟩ := grown
      refine .node ?_ fun entry inside => ?_
      · rw [named, List.filterMap_append]
        exact congrArg List.eraseDups (List.append_nil _).symm
      · rw [onward_concat]
        exact (List.append_nil _).symm ▸ below entry inside
  | cons name rest ih =>
      obtain ⟨named, below⟩ := grown
      rename_i children
      have distinct : (children.map Prod.fst).Nodup :=
        named ▸ nodup_of_rising (eraseDups_ordered List.head? paths)
      have own : (name :: rest).dropPrefix? [name] = some rest := by simp [List.dropPrefix?]
      refine .node ?_ fun entry inside => ?_
      · have first : [name :: rest].filterMap List.head? = [name] := rfl
        rw [names_changeChild, named, List.filterMap_append, first, eraseDups_concat]
        simp only [List.mem_eraseDups]
      · rw [onward_concat]
        rcases mem_changeChild distinct inside with ⟨apart, kept⟩ | ⟨child, before, rfl⟩ | ⟨missing, rfl⟩
        · have other : (name :: rest).dropPrefix? [entry.1] = none := by
            simp [List.dropPrefix?, apart.symm]
          rw [other]
          exact (List.append_nil _).symm ▸ below entry kept
        · rw [own]
          exact ih (below (name, child) before)
        · -- No path before had the name, so the new child has nothing to show but the rest of this one.
          have none : onward [name] paths = [] := by
            refine List.eq_nil_iff_forall_not_mem.mpr fun after begins => missing ?_
            rw [named, List.mem_eraseDups]
            exact List.mem_filterMap.mpr ⟨name :: after, mem_onward.mp begins, rfl⟩
          rw [own, none]
          exact ih grown_empty

theorem grown_ofSegments (paths : List (List String)) : Grown paths (ofSegments paths) := by
  induction paths using List.reverseRecOn with
  | nil => exact grown_empty
  | append_singleton paths last ih =>
      unfold ofSegments at ih ⊢
      rw [List.foldl_append]
      exact ih.insert last

theorem Grown.along (grown : Grown paths tree) (leads : tree.Leads path reached) :
    Grown (onward path paths) reached := by
  induction path generalizing paths tree with
  | nil =>
      rw [leads_nil.mp leads, onward_nil]
      exact grown
  | cons name rest ih =>
      obtain ⟨named, below⟩ := grown
      obtain ⟨child, inside, leads⟩ := leads_cons.mp leads
      rw [onward_cons]
      exact ih (below (name, child) inside) leads

theorem next_iff : (asked.dropPrefix? path).bind List.head? = some name ↔ path ++ [name] <+: asked := by
  rw [Option.bind_eq_some_iff]
  constructor
  · rintro ⟨rest, found, first⟩
    obtain ⟨before, rfl, same⟩ := List.dropPrefix?_eq_some_iff.mp found
    obtain ⟨after, rfl⟩ := List.head?_eq_some_iff.mp first
    obtain rfl := eq_of_beq same
    exact ⟨after, List.append_assoc _ _ _⟩
  · rintro ⟨after, rfl⟩
    have found : (path ++ [name] ++ after).dropPrefix? path = some (name :: after) :=
      List.dropPrefix?_eq_some_iff.mpr ⟨path, List.append_assoc _ _ _, beq_self_eq_true path⟩
    exact ⟨name :: after, found, rfl⟩

theorem Grown.ordered (grown : Grown (onward path paths) reached) :
    reached.names.Pairwise fun earlier later =>
      firstAsked paths (path ++ [earlier]) < firstAsked paths (path ++ [later]) := by
  obtain ⟨named, _⟩ := grown
  have place (name : String) : firstAsked paths (path ++ [name]) =
      paths.findIdx fun asked => (asked.dropPrefix? path).bind List.head? = some name := by
    unfold firstAsked
    congr 1
    funext asked
    rw [Bool.eq_iff_iff, List.isPrefixOf_iff_prefix, decide_eq_true_iff, next_iff]
  unfold names PathTree.children
  dsimp only
  rw [named]
  unfold onward
  rw [List.filterMap_filterMap]
  simp only [place]
  exact eraseDups_ordered _ paths

theorem enumerates_ofSegments (paths : List (List String)) : (ofSegments paths).Enumerates paths where
  labels path begun := by
    rw [← has_iff_leads, has_ofSegments, or_iff_right begun]
  distinct path reached leads := nodup_of_rising ((grown_ofSegments paths).along leads).ordered
  ordered path reached leads := ((grown_ofSegments paths).along leads).ordered

/-! One tree only. -/

theorem firstAsked_onward {first second : List String} :
    firstAsked (onward [name] paths) first < firstAsked (onward [name] paths) second ↔
      firstAsked paths (name :: first) < firstAsked paths (name :: second) := by
  have begins (beginning asked : List String) :
      (asked.dropPrefix? [name]).any beginning.isPrefixOf = (name :: beginning).isPrefixOf asked := by
    cases asked with
    | nil => rfl
    | cons first rest =>
        by_cases same : first = name
        · simp [List.dropPrefix?, List.isPrefixOf, same]
        · have differ : name ≠ first := fun equal => same equal.symm
          simp [List.dropPrefix?, List.isPrefixOf, same, differ]
  unfold firstAsked onward
  rw [findIdx_filterMap_lt]
  simp only [begins]

theorem Enumerates.below (whole : tree.Enumerates paths) (inside : (name, child) ∈ tree.children) :
    child.Enumerates (onward [name] paths) := by
  have deeper {path : List String} {reached : PathTree} (leads : child.Leads path reached) :
      tree.Leads (name :: path) reached := leads_cons.mpr ⟨child, inside, leads⟩
  refine ⟨fun path begun => ⟨?_, ?_⟩, fun path reached leads => whole.distinct _ _ (deeper leads),
    fun path reached leads => ?_⟩
  · rintro ⟨reached, leads⟩
    obtain ⟨asked, given, after, rfl⟩ :=
      (whole.labels (name :: path) (List.cons_ne_nil _ _)).mp ⟨reached, deeper leads⟩
    exact ⟨path ++ after, mem_onward.mpr given, after, rfl⟩
  · rintro ⟨asked, given, begins⟩
    obtain ⟨reached, leads⟩ := (whole.labels (name :: path) (List.cons_ne_nil _ _)).mpr
      ⟨name :: asked, mem_onward.mp given, List.cons_prefix_cons.mpr ⟨rfl, begins⟩⟩
    obtain ⟨other, inside', leads⟩ := leads_cons.mp leads
    have same := List.inj_on_of_nodup_map (whole.distinct [] tree (leads_nil.mpr rfl)) inside inside' rfl
    cases same
    exact ⟨reached, leads⟩
  · exact (whole.ordered _ _ (deeper leads)).imp firstAsked_onward.mpr

theorem Enumerates.names_eq {left right : PathTree} (first : left.Enumerates paths)
    (second : right.Enumerates paths) : left.names = right.names := by
  have here : left.Leads [] left := leads_nil.mpr rfl
  have there : right.Leads [] right := leads_nil.mpr rfl
  have members (name : String) : name ∈ left.names ↔ name ∈ right.names := by
    have some : [name] ≠ [] := List.cons_ne_nil _ _
    rw [mem_names, mem_names, first.labels [name] some, second.labels [name] some]
  have same : left.names.Perm right.names :=
    (List.perm_ext_iff_of_nodup (first.distinct [] left here) (second.distinct [] right there)).mpr members
  exact same.eq_of_pairwise (fun _ _ _ _ before after => absurd before (Nat.lt_asymm after))
    (first.ordered [] left here) (second.ordered [] right there)

theorem Grown.unique (grown : Grown paths tree) (first : tree.Enumerates paths) {other : PathTree}
    (second : other.Enumerates paths) : tree = other := by
  induction grown generalizing other with
  | node named below ih =>
      cases other with
      | node others =>
          have entries := eq_of_entries (first.names_eq second) fun name child child' inside inside' =>
            ih (name, child) inside (first.below inside) (second.below inside')
          exact congrArg PathTree.node entries

end

/-- The tree into which paths are inserted, and no other, has their beginnings for nodes, with the children of each node
under different names and in the order in which they were first asked for; the paths of a document are cut at points. -/
theorem enumerates_iff_inserted :
    (∀ paths tree, Enumerates tree paths ↔ tree = paths.foldl (fun tree path => insert path tree) empty) ∧
      ∀ texts, (ofPaths texts).Enumerates (texts.map (Text.split '.')) := by
  refine ⟨fun paths tree => ⟨fun whole => ?_, ?_⟩, fun texts => ?_⟩
  · exact ((grown_ofSegments paths).unique (enumerates_ofSegments paths) whole).symm
  · rintro rfl
    exact enumerates_ofSegments paths
  · rw [ofPaths_eq]
    exact enumerates_ofSegments _

/-- Paths that begin alike share a node, whatever is asked for between them. -/
example : ofPaths ["comments.author", "author", "comments.article"] =
    node [("comments", node [("author", empty), ("article", empty)]), ("author", empty)] := by rfl

end PathTree

end ResourceServer
