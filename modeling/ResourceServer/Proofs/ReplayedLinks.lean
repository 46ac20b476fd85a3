import ResourceServer.Proofs.OwnedLinks

/-! Each way of changing the links of an owner can be done again, once it has succeeded. -/

namespace ResourceServer

open ResourceServer.Store ResourceServer.Mapping ResourceServer.Relinking ResourceServer.Api

section

variable {schema : Schema} {connection middle reached after : Connection} {type target : EntityType}
  {relationship : Relationship} {owner : String} {targets : List Identifier} {allowed : Bool}
  {wanted current : List String}

/-! What requests for a to-many relationship come to once their targets and the current ones are known. -/

theorem execute_replaceToMany (many : relationship.isToMany = true)
    (required : execute (requireTargets schema relationship targets) connection = (.ok wanted, middle))
    (loaded : execute (currentTargets schema type relationship owner) middle = (.ok current, reached)) :
    execute (Relinking.replaceToMany schema type relationship owner targets true) connection = execute (do
      SourceAction.writing (Mapping.removeFromMany schema type relationship owner
        (current.filter fun id => !wanted.contains id))
      SourceAction.writing (Mapping.addToMany schema type relationship owner
        (wanted.filter fun id => !current.contains id))) reached := by
  unfold Relinking.replaceToMany
  refine (execute_requireToMany many "replace" _).trans ?_
  rw [execute_bind, required]
  dsimp only
  rw [execute_bind, loaded]

theorem execute_appendToMany (many : relationship.isToMany = true)
    (required : execute (requireTargets schema relationship targets) connection = (.ok wanted, middle)) :
    execute (Relinking.appendToMany schema type relationship owner targets) connection =
      execute (SourceAction.writing (Mapping.addToMany schema type relationship owner wanted)) middle := by
  unfold Relinking.appendToMany
  refine (execute_requireToMany many "add to" _).trans ?_
  rw [execute_bind, required]

theorem execute_removeFromMany (many : relationship.isToMany = true)
    (required : execute (requireTargets schema relationship targets) connection = (.ok wanted, middle))
    (loaded : execute (currentTargets schema type relationship owner) middle = (.ok current, reached)) :
    execute (Relinking.removeFromMany schema type relationship owner targets true) connection =
      if (wanted.filter current.contains).isEmpty = true then (.ok false, reached)
      else execute (do
        SourceAction.writing (Mapping.removeFromMany schema type relationship owner (wanted.filter current.contains))
        return true) reached := by
  unfold Relinking.removeFromMany
  refine (execute_requireToMany many "remove from" _).trans ?_
  rw [execute_bind, required]
  dsimp only
  rw [execute_bind, loaded]
  dsimp only
  split
  · rfl
  · rfl

theorem toMany_ok {operation : String} {α : Type} {next : List String → SourceAction α} {value : α}
    (run : execute (Store.Action.ofExcept (requireToMany relationship operation) >>= fun _ =>
      requireTargets schema relationship targets >>= next) connection = (.ok value, after)) :
    relationship.isToMany = true ∧ ∃ wanted middle,
      execute (requireTargets schema relationship targets) connection = (.ok wanted, middle) ∧
        execute (next wanted) middle = (.ok value, after) := by
  obtain ⟨⟨⟩, start, many, run⟩ := execute_bind_ok run
  rw [execute_ofExcept] at many
  obtain rfl := congrArg Prod.snd many
  obtain ⟨wanted, middle, required, run⟩ := execute_bind_ok run
  exact ⟨requireToMany_ok (congrArg Prod.fst many), wanted, middle, required, run⟩

theorem replaceToMany_ok
    (run : execute (Relinking.replaceToMany schema type relationship owner targets allowed) connection =
      (.ok (), after)) :
    allowed = true ∧ relationship.isToMany = true ∧ ∃ wanted middle current reached,
      execute (requireTargets schema relationship targets) connection = (.ok wanted, middle) ∧
        execute (currentTargets schema type relationship owner) middle = (.ok current, reached) := by
  unfold Relinking.replaceToMany at run
  cases allowed with
  | false => cases run
  | true =>
      obtain ⟨many, wanted, middle, required, run⟩ := toMany_ok run
      obtain ⟨current, reached, loaded, _⟩ := execute_bind_ok run
      exact ⟨rfl, many, wanted, middle, current, reached, required, loaded⟩

theorem appendToMany_ok
    (run : execute (Relinking.appendToMany schema type relationship owner targets) connection = (.ok (), after)) :
    relationship.isToMany = true ∧ ∃ wanted middle,
      execute (requireTargets schema relationship targets) connection = (.ok wanted, middle) := by
  obtain ⟨many, wanted, middle, required, _⟩ := toMany_ok run
  exact ⟨many, wanted, middle, required⟩

theorem removeFromMany_ok {any : Bool}
    (run : execute (Relinking.removeFromMany schema type relationship owner targets allowed) connection =
      (.ok any, after)) :
    allowed = true ∧ relationship.isToMany = true ∧ ∃ wanted middle current reached,
      execute (requireTargets schema relationship targets) connection = (.ok wanted, middle) ∧
        execute (currentTargets schema type relationship owner) middle = (.ok current, reached) := by
  unfold Relinking.removeFromMany at run
  cases allowed with
  | false => cases run
  | true =>
      obtain ⟨many, wanted, middle, required, run⟩ := toMany_ok run
      obtain ⟨current, reached, loaded, _⟩ := execute_bind_ok run
      exact ⟨rfl, many, wanted, middle, current, reached, required, loaded⟩

end

section

variable {schema : Schema} {connection after : Connection} {type target : EntityType} {relationship : Relationship}
  {written : Relationship → Prop} {base : Database} {owner : String} {cell : Cell} {targets : List Identifier}
  {allowed : Bool}

theorem Schema.Relates.owned (relates : schema.Relates type relationship target) (owner : String) :
    Owned schema (fun _ _ => True) type relationship owner :=
  ⟨relates.known, relates.own, fun _ _ _ => trivial⟩

theorem Steady.unmoved (steady : Steady schema type written base connection.database)
    (relates : schema.Relates type relationship target) (here : after.database = connection.database) :
    Changed schema type target relationship.storage connection.database after.database
      (LinkEffect.idle.links (Holds connection.database type target relationship.storage)) := by
  rw [here]
  exact .same steady.housed (steady.typed.keys relates) fun _ _ => LinkEffect.links_idle.symm

namespace Owning

variable (owning : Owning schema type written base owner cell)
  (relates : schema.Relates type relationship target)

include owning

theorem kept {α : Type} {action : SourceAction α}
    (ready : ∀ {holds}, LinkInvariant schema False holds → Maintains (Ready schema False holds fun _ _ => True) action) :
    Maintains (fun database => Laid schema database ∧ Housed schema database ∧
      FieldsAlike schema base database ∧ ReferencesTyped schema database) action :=
  establishes_weaken (ready (steady_invariant owning.separate owning.agree))
    (fun _ start => ⟨start.1, start.2, False.elim⟩) fun _ _ ready => ⟨ready.laid, ready.held⟩

include relates

theorem replaceToOne_replayable (own : written relationship) {chosen : Option Identifier}
    (start : Steady schema type written base connection.database)
    (run : execute (Relinking.replaceToOne schema type relationship owner chosen) connection = (.ok (), after)) :
    Replayable schema (Steady schema type written base)
      (Relinking.replaceToOne schema type relationship owner chosen) := by
  have toOne : relationship.isToMany = false := by
    unfold Relinking.replaceToOne at run
    cases kind : relationship.isToMany with
    | false => rfl
    | true =>
        rw [kind] at run
        cases run
  obtain ⟨value, names, present, again⟩ : ∃ value, Option.Rel target.Names (chosen.map Identifier.id) value ∧
      (∀ id ∈ value, ∃ record ∈ base.records (tableName target), record (idName target) = id) ∧
      ∀ {connection : Connection}, Steady schema type written base connection.database →
        ∃ middle : Connection, middle.database = connection.database ∧
          execute (Relinking.replaceToOne schema type relationship owner chosen) connection =
            execute (SourceAction.writing (setToOne schema type relationship owner (chosen.map Identifier.id)))
              middle := by
    unfold Relinking.replaceToOne at run ⊢
    rw [toOne] at run ⊢
    cases chosen with
    | none =>
        refine ⟨none, .none, fun _ member => absurd member (Option.not_mem_none _), fun {connection} _ => ?_⟩
        exact ⟨connection, rfl, rfl⟩
    | some given =>
        obtain ⟨ids, middle, required, _⟩ := execute_bind_ok run
        obtain ⟨rfl, _, cells, wanted⟩ := owning.requires relates start required
        obtain ⟨value, _, one, last, rfl⟩ := List.forall₂_cons_left_iff.mp
          (show List.Forall₂ target.Names [given.id] cells from wanted.named)
        cases last
        refine ⟨some value, .some one, ?_, fun {connection} steady => ?_⟩
        · rintro _ ⟨⟩
          exact wanted.present value List.mem_cons_self
        · obtain ⟨middle, done, here⟩ := owning.required relates wanted steady
          refine ⟨middle, here, (execute_bind _ _ _).trans ?_⟩
          dsimp only
          rw [done]
          rfl
  refine replayable_changed owning.separate owning.unmixed relates own
    (owning.kept fun invariant => replaceToOne_ready invariant (relates.owned owner) chosen)
    ((LinkChange.set value).effect relationship.storage.Single cell)
    (fun locked => absurd locked.1 (by simp [toOne])) fun {connection} steady => ?_
  obtain ⟨middle, here, same⟩ := again steady
  obtain ⟨after, done, changed⟩ := owning.change_done relates (.set _) toOne (.set names)
    (fun id member => present id (Option.mem_toList.mp member)) (here.symm ▸ steady)
  rw [here] at changed
  exact ⟨(), after, same.trans done, changed⟩

theorem replaceToMany_replayable (own : written relationship)
    (start : Steady schema type written base connection.database)
    (run : execute (Relinking.replaceToMany schema type relationship owner targets allowed) connection =
      (.ok (), after)) :
    Replayable schema (Steady schema type written base)
      (Relinking.replaceToMany schema type relationship owner targets allowed) := by
  obtain ⟨rfl, many, wanted, middle, current, reached, required, loaded⟩ := replaceToMany_ok run
  obtain ⟨rfl, here, cells, asked⟩ := owning.requires relates start required
  have kept := owning.kept fun invariant => replaceToMany_ready invariant (relates.owned owner) targets true
  by_cases locked : relationship.ReadOnly
  · -- Nothing could be removed or added, so the wanted targets are the current ones, which are the same everywhere.
    have start' : Steady schema type written base middle.database := here.symm ▸ start
    obtain ⟨_, _, loaded', _, seen⟩ := owning.current relates start'
    cases loaded.symm.trans loaded'
    rw [execute_replaceToMany many required loaded] at run
    obtain ⟨⟨⟩, _, removed, added⟩ := execute_bind_ok run
    have stale := locked_targets owning.separate relates locked owning.spells.spelled
      (fun id member => (seen.named id (List.mem_filter.mp member).1).imp fun _ => And.left)
      (.remove _) (.inr rfl) removed
    have fresh := locked_targets owning.separate relates locked owning.spells.spelled
      (fun id member => (mem_of_forall₂ asked.named (List.mem_filter.mp member).1).imp fun _ => And.right)
      (.add _) (.inl rfl) added
    simp only [List.filter_eq_nil_iff, Bool.not_eq_true, Bool.not_eq_false', List.contains_iff_mem] at stale fresh
    refine replayable_changed owning.separate owning.unmixed relates own kept .idle (fun _ => rfl)
      fun {connection} steady => ?_
    obtain ⟨middle, required, here⟩ := owning.required relates asked steady
    have steady' : Steady schema type written base middle.database := here.symm ▸ steady
    obtain ⟨ids, reached, loaded, there, seen'⟩ := owning.current relates steady'
    have same := owning.current_locked relates own locked steady' start' seen' seen
    have stale' : (ids.filter fun id => !(distinctIds [] (targets.map Identifier.id)).contains id) = [] := by
      simpa [List.filter_eq_nil_iff] using fun id member => stale id ((same id).mp member)
    have fresh' : ((distinctIds [] (targets.map Identifier.id)).filter fun id => !ids.contains id) = [] := by
      simpa [List.filter_eq_nil_iff] using fun id member => (same id).mpr (fresh id member)
    obtain ⟨removed, added⟩ := no_targets_done owning.separate relates (idCell_spelled owning.spells.spelled) reached
    refine ⟨(), reached, ?_, steady.unmoved relates (there.trans here)⟩
    rw [execute_replaceToMany many required loaded, stale', fresh', execute_bind, execute_writing_done removed]
    exact execute_writing_done added
  · have keyed (column : String) (storage : relationship.storage = .ownerKey column) : False :=
      locked ⟨many, column, storage⟩
    refine replayable_changed owning.separate owning.unmixed relates own kept
      (.replacing relationship.storage.Single cell (Seen base type target owner cell) cells)
      (fun readOnly => absurd readOnly locked) fun {connection} steady => ?_
    obtain ⟨middle, required, here⟩ := owning.required relates asked steady
    obtain ⟨ids, reached, loaded, there, seen⟩ := owning.current relates
      (show Steady schema type written base middle.database from here.symm ▸ steady)
    have same : reached.database = connection.database := there.trans here
    rw [here, ← same] at seen
    obtain ⟨after, done, changed⟩ := owning.replaced relates keyed asked (same.symm ▸ steady) seen
    rw [same] at changed
    exact ⟨(), after, (execute_replaceToMany many required loaded).trans done, changed⟩

theorem appendToMany_replayable (own : written relationship)
    (start : Steady schema type written base connection.database)
    (run : execute (Relinking.appendToMany schema type relationship owner targets) connection = (.ok (), after)) :
    Replayable schema (Steady schema type written base)
      (Relinking.appendToMany schema type relationship owner targets) := by
  obtain ⟨many, wanted, middle, required⟩ := appendToMany_ok run
  obtain ⟨rfl, here, cells, asked⟩ := owning.requires relates start required
  have kept := owning.kept fun invariant => appendToMany_ready invariant (relates.owned owner) targets
  by_cases locked : relationship.ReadOnly
  · rw [execute_appendToMany many required] at run
    have none := locked_targets owning.separate relates locked owning.spells.spelled
      (fun id member => (mem_of_forall₂ asked.named member).imp fun _ => And.right) (.add _) (.inl rfl) run
    refine replayable_changed owning.separate owning.unmixed relates own kept .idle (fun _ => rfl)
      fun {connection} steady => ?_
    obtain ⟨middle, required, here⟩ := owning.required relates asked steady
    obtain ⟨_, added⟩ := no_targets_done owning.separate relates (idCell_spelled owning.spells.spelled) middle
    refine ⟨(), middle, ?_, steady.unmoved relates here⟩
    rw [execute_appendToMany many required, none]
    exact execute_writing_done added
  · have keyed (column : String) (storage : relationship.storage = .ownerKey column) : False :=
      locked ⟨many, column, storage⟩
    refine replayable_changed owning.separate owning.unmixed relates own kept
      ((LinkChange.add cells).effect relationship.storage.Single cell)
      (fun readOnly => absurd readOnly locked) fun {connection} steady => ?_
    obtain ⟨middle, required, here⟩ := owning.required relates asked steady
    obtain ⟨after, done, changed⟩ := owning.change_done relates (.add _) keyed (.add asked.named)
      asked.present (here.symm ▸ steady)
    rw [here] at changed
    exact ⟨(), after, (execute_appendToMany many required).trans done, changed⟩

/-- Unlinking targets from an owner can be done again, though then there may be none to unlink. -/
theorem removeFromMany_replayable (own : written relationship)
    (start : Steady schema type written base connection.database) {any : Bool}
    (run : execute (Relinking.removeFromMany schema type relationship owner targets allowed) connection =
      (.ok any, after)) :
    Replayable schema (Steady schema type written base)
      (Relinking.removeFromMany schema type relationship owner targets allowed) := by
  obtain ⟨rfl, many, wanted, middle, current, reached, required, loaded⟩ := removeFromMany_ok run
  obtain ⟨rfl, here, cells, asked⟩ := owning.requires relates start required
  have kept := owning.kept fun invariant => removeFromMany_maintains invariant (relates.owned owner) targets true
  by_cases locked : relationship.ReadOnly
  · have start' : Steady schema type written base middle.database := here.symm ▸ start
    obtain ⟨_, _, loaded', _, seen⟩ := owning.current relates start'
    cases loaded.symm.trans loaded'
    have none : (distinctIds [] (targets.map Identifier.id)).filter current.contains = [] := by
      rw [execute_removeFromMany many required loaded] at run
      split at run
      · rename_i empty
        exact List.isEmpty_iff.mp empty
      · obtain ⟨⟨⟩, _, removed, _⟩ := execute_bind_ok run
        exact locked_targets owning.separate relates locked owning.spells.spelled
          (fun id member => (mem_of_forall₂ asked.named (List.mem_filter.mp member).1).imp fun _ => And.right)
          (.remove _) (.inr rfl) removed
    simp only [List.filter_eq_nil_iff, List.contains_iff_mem] at none
    refine replayable_changed owning.separate owning.unmixed relates own kept .idle (fun _ => rfl)
      fun {connection} steady => ?_
    obtain ⟨middle, required, here⟩ := owning.required relates asked steady
    have steady' : Steady schema type written base middle.database := here.symm ▸ steady
    obtain ⟨ids, reached, loaded, there, seen'⟩ := owning.current relates steady'
    have same := owning.current_locked relates own locked steady' start' seen' seen
    have none' : (distinctIds [] (targets.map Identifier.id)).filter ids.contains = [] := by
      simpa [List.filter_eq_nil_iff] using fun id member => mt (same id).mp (none id member)
    refine ⟨false, reached, ?_, steady.unmoved relates (there.trans here)⟩
    rw [execute_removeFromMany many required loaded, none']
    rfl
  · have keyed (column : String) (storage : relationship.storage = .ownerKey column) : False :=
      locked ⟨many, column, storage⟩
    refine replayable_changed owning.separate owning.unmixed relates own kept
      (.withdrawing cell (Seen base type target owner cell) cells)
      (fun readOnly => absurd readOnly locked) fun {connection} steady => ?_
    obtain ⟨middle, required, here⟩ := owning.required relates asked steady
    obtain ⟨ids, reached, loaded, there, seen⟩ := owning.current relates
      (show Steady schema type written base middle.database from here.symm ▸ steady)
    have same : reached.database = connection.database := there.trans here
    rw [here, ← same] at seen
    obtain ⟨any, after, done, changed⟩ := owning.withdrawn relates keyed asked (same.symm ▸ steady) seen
    rw [same] at changed
    exact ⟨any, after, (execute_removeFromMany many required loaded).trans done, changed⟩

end Owning

end

end ResourceServer
