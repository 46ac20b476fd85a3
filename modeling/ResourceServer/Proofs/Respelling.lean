import ResourceServer.Proofs.Atomicity
import ResourceServer.Proofs.Results
import ResourceServer.Proofs.Steps

/-! Two runs of steps that come to the same, but for the words of their errors. -/

namespace ResourceServer

open ResourceServer.Store ResourceServer.Api ResourceServer.Mapping

section

variable {σ α β γ α' β' : Type}

/-- Two outcomes that are values alike, or errors of one status. -/
inductive Matches (same : α → β → Prop) : Except RequestError α → Except RequestError β → Prop
  | ok {value : α} {other : β} (alike : same value other) : Matches same (.ok value) (.ok other)
  | error {failure other : RequestError} (status : failure.status = other.status) :
      Matches same (.error failure) (.error other)

theorem Matches.refl (result : Except RequestError α) : Matches Eq result result := by
  cases result with
  | ok value => exact .ok rfl
  | error failure => exact .error rfl

theorem Matches.bind {same : α → β → Prop} {same' : α' → β' → Prop}
    {first : Except RequestError α} {second : Except RequestError β}
    {next : α → Except RequestError α'} {next' : β → Except RequestError β'}
    (alike : Matches same first second)
    (later : ∀ value other, same value other → Matches same' (next value) (next' other)) :
    Matches same' (first >>= next) (second >>= next') := by
  cases alike with
  | ok alike => exact later _ _ alike
  | error status => exact .error status

/-- Two steps that begin where a view shows the same come to outcomes that match, and end where it shows the
same. -/
structure Alike (view : σ → γ) (same : α → β → Prop) (first : ExceptT RequestError (StateM σ) α)
    (second : ExceptT RequestError (StateM σ) β) : Prop where
  sound : ∀ {start other : σ}, view start = view other →
    Matches same (execute first start).1 (execute second other).1 ∧
      view (execute first start).2 = view (execute second other).2

section

variable {view : σ → γ} {same : α → β → Prop}

theorem alike_itself (step : ExceptT RequestError (StateM σ) α) : Alike id Eq step step := by
  refine ⟨fun {start other} equal => ?_⟩
  cases equal
  exact ⟨.refl _, rfl⟩

theorem alike_pure {value : α} {other : β} (alike : same value other) :
    Alike view same (pure value : ExceptT RequestError (StateM σ) α) (pure other) :=
  ⟨fun equal => ⟨.ok alike, equal⟩⟩

theorem alike_throw {failure other : RequestError} (status : failure.status = other.status) :
    Alike view same (throw failure : ExceptT RequestError (StateM σ) α) (throw other) :=
  ⟨fun equal => ⟨.error status, equal⟩⟩

theorem alike_bind {first : ExceptT RequestError (StateM σ) α}
    {second : ExceptT RequestError (StateM σ) β} {same' : α' → β' → Prop}
    {next : α → ExceptT RequestError (StateM σ) α'} {next' : β → ExceptT RequestError (StateM σ) β'}
    (alike : Alike view same first second)
    (later : ∀ value other, same value other → Alike view same' (next value) (next' other)) :
    Alike view same' (first >>= next) (second >>= next') := by
  refine ⟨fun {start other} equal => ?_⟩
  have begun := alike.sound equal
  rw [execute_bind, execute_bind]
  rcases one : execute first start with ⟨result, between⟩
  rcases two : execute second other with ⟨result', between'⟩
  rw [one, two] at begun
  obtain ⟨matched, reached⟩ := begun
  dsimp only at matched
  cases matched with
  | ok alike => exact (later _ _ alike).sound reached
  | error status => exact ⟨.error status, reached⟩

theorem alike_after (step : ExceptT RequestError (StateM σ) γ)
    {next : γ → ExceptT RequestError (StateM σ) α} {next' : γ → ExceptT RequestError (StateM σ) β}
    (later : ∀ value, Alike id same (next value) (next' value)) :
    Alike id same (step >>= next) (step >>= next') := by
  refine alike_bind (alike_itself step) fun value other equal => ?_
  cases equal
  exact later value

theorem alike_knowing {known : γ → Prop} {step : ExceptT RequestError (StateM σ) γ}
    {next : γ → ExceptT RequestError (StateM σ) α} {next' : γ → ExceptT RequestError (StateM σ) β}
    (established : Establishes (fun _ => True) step fun value _ => known value)
    (later : ∀ value, known value → Alike id same (next value) (next' value)) :
    Alike id same (step >>= next) (step >>= next') := by
  refine ⟨fun {start other} equal => ?_⟩
  cases equal
  rw [execute_bind, execute_bind]
  rcases outcome : execute step start with ⟨result, between⟩
  cases result with
  | ok value => exact (later value (established.sound trivial outcome)).sound rfl
  | error failure => exact ⟨.error rfl, rfl⟩

theorem alike_forM {items : List γ} {step step' : γ → ExceptT RequestError (StateM σ) PUnit}
    (each : ∀ item ∈ items, Alike id Eq (step item) (step' item)) :
    Alike id Eq (items.forM step) (items.forM step') := by
  induction items with
  | nil => exact alike_pure rfl
  | cons item rest ih =>
      exact alike_bind (each item List.mem_cons_self) fun _ _ _ =>
        ih fun other member => each other (List.mem_cons_of_mem _ member)

theorem alike_guard {failed : Prop} [Decidable failed] {error other : RequestError}
    (status : error.status = other.status) {next : PUnit → ExceptT RequestError (StateM σ) α}
    {next' : PUnit → ExceptT RequestError (StateM σ) β}
    (alike : ¬failed → Alike view same (next ⟨⟩) (next' ⟨⟩)) :
    Alike view same (if failed then throw error >>= next else next ⟨⟩)
      (if failed then throw other >>= next' else next' ⟨⟩) := by
  split
  · exact ⟨fun equal => ⟨.error status, equal⟩⟩
  · exact alike ‹_›

end

/-! Steps of handling a request, seen by their connections. -/

variable {same : α → β → Prop}

theorem alike_given {same' : α' → β' → Prop} {result : Except RequestError α}
    {next : α → Handler α'} {next' : α → Handler β'}
    (later : ∀ value, result = .ok value → Alike Handling.connection same' (next value) (next' value)) :
    Alike Handling.connection same' (Handler.ofExcept result >>= next)
      (Handler.ofExcept result >>= next') := by
  cases result with
  | ok value => exact later value rfl
  | error failure => exact ⟨fun equal => ⟨.error rfl, equal⟩⟩

theorem alike_source {first : SourceAction α} {second : SourceAction β}
    (alike : Alike id same first second) :
    Alike Handling.connection same (Handler.source first) (Handler.source second) := by
  refine ⟨fun {start other} equal => ?_⟩
  rw [execute_source, execute_source]
  exact alike.sound equal

theorem alike_note (call other : Call) :
    Alike Handling.connection Eq (Handler.note call) (Handler.note other) :=
  ⟨fun equal => ⟨.ok rfl, equal⟩⟩

theorem alike_attempt {first : Handler α} {second : Handler β}
    (alike : Alike Handling.connection same first second) :
    Alike Handling.connection (Matches same) (Handler.attempt first) (Handler.attempt second) := by
  refine ⟨fun {start other} equal => ?_⟩
  rw [execute_attempt, execute_attempt]
  have ⟨matched, reached⟩ := alike.sound equal
  exact ⟨.ok matched, reached⟩

theorem alike_transactionally {first : Handler α} {second : Handler β}
    (alike : Alike Handling.connection same first second) :
    Alike Handling.connection same (Handler.transactionally first)
      (Handler.transactionally second) := by
  refine alike_bind (alike_source (alike_itself _)) fun _ _ _ =>
    alike_bind (alike_attempt alike) fun _ _ matched => ?_
  cases matched with
  | ok alike =>
      exact alike_bind (alike_source (alike_itself _)) fun _ _ _ => alike_pure alike
  | error status =>
      exact alike_bind (alike_attempt (alike_source (alike_itself _))) fun _ _ _ =>
        alike_throw status

end

/-! Steps on one resource whose identity is written in two ways. -/

/-- A text that no identity of a type is written as, though it may be read as one. -/
def EntityType.Unwritten (type : EntityType) (text : String) : Prop :=
  ∀ cell value, valueOf type.identity.type cell = .ok value → value.text ≠ text

theorem loadRelation_owners (schema : Schema) (type : EntityType) (relationship : Relationship)
    (owners : List String) :
    Establishes (fun _ => True) (Mapping.loadRelation schema type relationship owners)
      fun links _ => ∀ text, type.Unwritten text → links.of text = [] := by
  unfold Mapping.loadRelation
  refine establishes_given fun found _ => ?_
  dsimp only
  split
  · exact establishes_pure fun _ _ _ _ => rfl
  refine ⟨fun {start next links} _ run => ?_⟩
  obtain ⟨rows, between, _, read⟩ := execute_bind_ok run
  rw [execute_ofExcept] at read
  have made : rows.mapM (readLink type found.2) = .ok links := congrArg Prod.fst read
  intro text unwritten
  refine List.filterMap_eq_nil_iff.mpr fun link member => if_neg ?_
  obtain ⟨row, _, one⟩ := mem_of_forall₂ (mapM_forall₂ made).flip member
  cases row with
  | nil => cases one
  | cons owner row =>
      obtain ⟨value, valued, rest⟩ := bind_ok one
      obtain ⟨resource, _, equal⟩ := bind_ok rest
      cases equal
      exact unwritten owner value valued

section

variable {schema : Schema} {type : EntityType} {text text' : String} {value : Value}
  (read : type.readId? text = some value) (read' : type.readId? text' = some value)
include read read'

theorem idCell?_respelled : idCell? type text = idCell? type text' := by
  unfold idCell?
  rw [read, read']

theorem idCells_respelled : idCells type [text] = idCells type [text'] := by
  unfold idCells
  rw [List.filterMap_cons, List.filterMap_cons, idCell?_respelled read read']

theorem get_respelled : Mapping.get type [text] = Mapping.get type [text'] := by
  unfold Mapping.get
  rw [idCells_respelled read read']

theorem update_respelled (values : Keyed Value) :
    Mapping.update type text values = Mapping.update type text' values := by
  unfold Mapping.update
  rw [get_respelled read read', idCell?_respelled read read']

theorem delete_respelled : Mapping.delete schema type text = Mapping.delete schema type text' := by
  unfold Mapping.delete
  rw [idCell?_respelled read read']

theorem idCell_respelled : idCell type text = idCell type text' := by
  unfold idCell idCell?
  rw [read, read']
  rfl

theorem setToOne_respelled (relationship : Relationship) (target : Option String) :
    setToOne schema type relationship text target = setToOne schema type relationship text' target := by
  unfold setToOne
  rw [idCell_respelled read read']

theorem addToMany_respelled (relationship : Relationship) (targets : List String) :
    addToMany schema type relationship text targets =
      addToMany schema type relationship text' targets := by
  unfold addToMany
  rw [idCell_respelled read read']

theorem removeFromMany_respelled (relationship : Relationship) (targets : List String) :
    removeFromMany schema type relationship text targets =
      removeFromMany schema type relationship text' targets := by
  unfold removeFromMany
  rw [idCell_respelled read read']

theorem loadRelation_respelled (relationship : Relationship) :
    Mapping.loadRelation schema type relationship [text] =
      Mapping.loadRelation schema type relationship [text'] := by
  unfold Mapping.loadRelation
  rw [idCells_respelled read read']

theorem requireResource_respelled :
    Alike id Eq (requireResource type text) (requireResource type text') := by
  unfold requireResource
  rw [get_respelled read read']
  refine alike_after _ fun found => ?_
  split
  · exact alike_pure rfl
  · exact alike_throw rfl

theorem loadTargets_respelled (relationship : Relationship) (unwritten : type.Unwritten text)
    (unwritten' : type.Unwritten text') :
    Alike id Eq (loadTargets schema type relationship text)
      (loadTargets schema type relationship text') := by
  unfold loadTargets
  rw [loadRelation_respelled read read']
  refine alike_knowing (establishes_mapError _ (loadRelation_owners ..)) fun links known => ?_
  rw [known text unwritten, known text' unwritten']
  exact alike_itself _

theorem currentTargets_respelled (relationship : Relationship) (unwritten : type.Unwritten text)
    (unwritten' : type.Unwritten text') :
    Alike id Eq (Relinking.currentTargets schema type relationship text)
      (Relinking.currentTargets schema type relationship text') := by
  unfold Relinking.currentTargets
  rw [loadRelation_respelled read read']
  refine alike_knowing (establishes_mapError _ (loadRelation_owners ..)) fun links known => ?_
  rw [known text unwritten, known text' unwritten']
  exact alike_itself _

theorem appendToMany_respelled (relationship : Relationship) (targets : List Identifier) :
    Relinking.appendToMany schema type relationship text targets =
      Relinking.appendToMany schema type relationship text' targets := by
  unfold Relinking.appendToMany
  simp only [addToMany_respelled read read']

theorem replaceToOne_respelled (relationship : Relationship) (target : Option Identifier) :
    Relinking.replaceToOne schema type relationship text target =
      Relinking.replaceToOne schema type relationship text' target := by
  unfold Relinking.replaceToOne
  simp only [setToOne_respelled read read']

theorem replaceToMany_respelled (relationship : Relationship) (targets : List Identifier)
    {allowed : Bool} (looked : allowed = true → type.Unwritten text ∧ type.Unwritten text') :
    Alike id Eq (Relinking.replaceToMany schema type relationship text targets allowed)
      (Relinking.replaceToMany schema type relationship text' targets allowed) := by
  cases allowed with
  | false => exact alike_throw rfl
  | true =>
      have ⟨unwritten, unwritten'⟩ := looked rfl
      refine alike_after _ fun _ => alike_after _ fun wanted => ?_
      refine alike_bind (currentTargets_respelled read read' relationship unwritten unwritten')
        fun current _ equal => ?_
      cases equal
      dsimp only
      rw [removeFromMany_respelled read read', addToMany_respelled read read']
      exact alike_itself _

theorem removeTargets_respelled (relationship : Relationship) (targets : List Identifier)
    {allowed : Bool} (looked : allowed = true → type.Unwritten text ∧ type.Unwritten text') :
    Alike id Eq (Relinking.removeFromMany schema type relationship text targets allowed)
      (Relinking.removeFromMany schema type relationship text' targets allowed) := by
  cases allowed with
  | false => exact alike_throw rfl
  | true =>
      have ⟨unwritten, unwritten'⟩ := looked rfl
      refine alike_after _ fun _ => alike_after _ fun wanted => ?_
      refine alike_bind (currentTargets_respelled read read' relationship unwritten unwritten')
        fun current _ equal => ?_
      cases equal
      dsimp only
      rw [removeFromMany_respelled read read']
      exact alike_itself _

theorem writeLinkage_respelled (relationship : Relationship) {linkage : Linkage} {allowed : Bool}
    (looked : allowed = true → ∀ targets, linkage = .toMany targets →
      type.Unwritten text ∧ type.Unwritten text') :
    Alike id Eq (writeLinkage schema type relationship text linkage allowed)
      (writeLinkage schema type relationship text' linkage allowed) := by
  unfold writeLinkage
  cases linkage with
  | toOne target =>
      dsimp only
      rw [replaceToOne_respelled read read']
      exact alike_itself _
  | toMany targets =>
      exact replaceToMany_respelled read read' relationship targets fun granted =>
        looked granted targets rfl

theorem writeLinkages_respelled {linkages : List (Relationship × Linkage)} {allowed : Bool}
    (looked : allowed = true → ∀ relationship targets,
      (relationship, Linkage.toMany targets) ∈ linkages →
        type.Unwritten text ∧ type.Unwritten text') :
    Alike id Eq (writeLinkages schema type text linkages allowed)
      (writeLinkages schema type text' linkages allowed) := by
  refine alike_forM fun entry member => ?_
  refine writeLinkage_respelled read read' entry.1 fun granted targets equal => ?_
  refine looked granted entry.1 targets ?_
  rw [← equal]
  exact member

theorem changeResource_respelled (api : Api) {endpoint : Endpoint} (own : endpoint.type = type)
    (values : Keyed Value) {linkages : List (Relationship × Linkage)}
    (looked : endpoint.config.allowReplacement = true → ∀ relationship targets,
      (relationship, Linkage.toMany targets) ∈ linkages →
        type.Unwritten text ∧ type.Unwritten text') :
    Alike id Eq (changeResource api endpoint text values linkages)
      (changeResource api endpoint text' values linkages) := by
  subst own
  unfold changeResource
  rw [update_respelled read read']
  refine alike_after _ fun found => ?_
  refine alike_guard ?_ fun _ => ?_
  · rfl
  · exact writeLinkages_respelled read read' looked

theorem changeLinks_respelled (api : Api) {endpoint : Endpoint} (own : endpoint.type = type)
    (relationship : Relationship) {operation : Operation} {linkage : Linkage}
    (replaces : operation = .replaceLinks → endpoint.config.allowReplacement = true →
      ∀ targets, linkage = .toMany targets → type.Unwritten text ∧ type.Unwritten text')
    (removes : operation ≠ .addLinks → operation ≠ .replaceLinks →
      endpoint.config.allowRemoval = true → type.Unwritten text ∧ type.Unwritten text') :
    Alike id Eq (changeLinks api endpoint operation text relationship linkage)
      (changeLinks api endpoint operation text' relationship linkage) := by
  subst own
  unfold changeLinks
  refine alike_bind (requireResource_respelled read read') fun _ _ _ => ?_
  split
  · rw [appendToMany_respelled read read']
    exact alike_itself _
  · exact alike_bind (writeLinkage_respelled read read' relationship (replaces rfl)) fun _ _ _ =>
      alike_pure rfl
  · rename_i adding replacing
    refine alike_bind (removeTargets_respelled read read' relationship _ (removes adding replacing))
      fun _ _ equal => ?_
    exact alike_pure (congrArg some equal)

end

/-- The data of a document does not depend on its URL, nor on the page that it tells of. -/
theorem assemble_alike (assembler : Assembler) (schema : Schema) (data : PrimaryData)
    (included : Option (List Instance)) (page : Option Paging.Page) (url url' : Url)
    (fieldsets : Fieldsets) :
    Alike id (fun document document' : Document => document.data = document'.data)
      (assembler.assemble schema data included page url fieldsets)
      (assembler.assemble schema data included page url' fieldsets) := by
  unfold Assembler.assemble
  refine alike_after _ fun rendered => ?_
  dsimp only
  cases included with
  | none =>
      refine alike_after _ fun _ => alike_guard rfl fun _ => alike_pure ?_
      cases page <;> rfl
  | some resources =>
      refine alike_after _ fun _ => alike_after _ fun _ => alike_guard rfl fun _ => alike_pure ?_
      cases page <;> rfl

end ResourceServer
