import ResourceServer.Proofs.PlainReads

/-! What goes wrong with a request that writes is not told as a success. Only processors could do so, which choose the
status that they refuse with. -/

namespace ResourceServer

open ResourceServer.Store ResourceServer.Mapping ResourceServer.Api ResourceServer.Calendar

section

variable {ε α β : Type} {possible : ε → Prop}

def ErrsOnly (possible : ε → Prop) (result : Except ε α) : Prop :=
  ∀ error, result = .error error → possible error

theorem errsOnly_ok (value : α) : ErrsOnly possible (.ok value : Except ε α) :=
  fun _ failed => nomatch failed

theorem errsOnly_error {error : ε} (fits : possible error) : ErrsOnly possible (.error error : Except ε α) := by
  rintro _ ⟨⟩
  exact fits

theorem errsOnly_bind {result : Except ε α} {next : α → Except ε β} (first : ErrsOnly possible result)
    (then_ : ∀ value, ErrsOnly possible (next value)) : ErrsOnly possible (result >>= next) := by
  cases result with
  | error error => exact errsOnly_error (first error rfl)
  | ok value => exact then_ value

theorem errsOnly_map {result : Except ε α} {change : α → β} (inner : ErrsOnly possible result) :
    ErrsOnly possible (result.map change) := by
  cases result with
  | error error => exact errsOnly_error (inner error rfl)
  | ok value => exact errsOnly_ok _

theorem errsOnly_mapM {items : List α} {step : α → Except ε β} (each : ∀ item, ErrsOnly possible (step item)) :
    ErrsOnly possible (items.mapM step) := by
  induction items with
  | nil => exact errsOnly_ok []
  | cons item rest ih =>
      rw [List.mapM_cons]
      exact errsOnly_bind (each item) fun _ => errsOnly_bind ih fun _ => errsOnly_ok _

end

namespace Api

/-- An error is not told as the success of a request that has nothing to answer. -/
def Declines (error : RequestError) : Prop :=
  error.status ≠ 204

theorem declines {error : RequestError} (chosen : ∀ status detail, error ≠ .rejected status detail) :
    Declines error := by
  unfold Declines RequestError.status
  cases error with
  | rejected status detail => exact absurd rfl (chosen status detail)
  | backend message writing =>
      dsimp only
      split
      · decide
      · split <;> decide
  | _ => exact nofun

section

variable {α : Type} {schema : Schema} {type : EntityType} {relationship : Relationship} {owner : String}
  {targets : List Identifier} {linkage : Linkage} {allowed : Bool}

theorem reading_declines (action : MappingAction α) : FailsOnly Declines (SourceAction.reading action) :=
  failsOnly_mapError fun _ => declines nofun

theorem writing_declines (action : MappingAction α) : FailsOnly Declines (SourceAction.writing action) :=
  failsOnly_mapError fun _ => declines nofun

theorem failsOnly_guard {action : SourceAction α} {refused : Bool} {error : RequestError}
    (chosen : ∀ status detail, error ≠ .rejected status detail) (inner : FailsOnly Declines action) :
    FailsOnly Declines (do
      if refused then throw error
      action) := by
  cases refused with
  | true => exact failsOnly_throw (declines chosen)
  | false => exact inner

/-! Bodies of requests. -/

theorem requestData_declines (request : Request) : ErrsOnly Declines (requestData request) := by
  unfold requestData
  split
  · exact errsOnly_ok _
  · exact errsOnly_error (declines nofun)

theorem identifier_declines (json : Json) : ErrsOnly Declines (Identifier.ofJson relationship json) := by
  unfold Identifier.ofJson
  split
  · split
    · exact errsOnly_error (declines nofun)
    · exact errsOnly_ok _
  · exact errsOnly_error (declines nofun)

theorem linkage_declines (json : Json) : ErrsOnly Declines (Linkage.ofJson relationship json) := by
  unfold Linkage.ofJson
  split
  · exact errsOnly_ok _
  · exact errsOnly_map (identifier_declines _)
  · exact errsOnly_map (errsOnly_mapM identifier_declines)
  · exact errsOnly_error (declines nofun)
  · exact errsOnly_error (declines nofun)

theorem innerMembers_declines (data : Json) (name : String) : ErrsOnly Declines (innerMembers data name) := by
  unfold innerMembers
  split
  · exact errsOnly_ok _
  · exact errsOnly_ok _
  · exact errsOnly_error (declines nofun)

theorem readAttributes_declines (data : Json) : ErrsOnly Declines (readAttributes type data) := by
  refine errsOnly_bind (innerMembers_declines data _) fun members => errsOnly_mapM fun member => ?_
  unfold readAttribute
  dsimp only
  split
  · exact errsOnly_error (declines nofun)
  · split
    · exact errsOnly_ok _
    · exact errsOnly_error (declines nofun)

theorem readRelationships_declines (data : Json) : ErrsOnly Declines (readRelationships type data) := by
  refine errsOnly_bind (innerMembers_declines data _) fun members => errsOnly_mapM fun member => ?_
  unfold readRelationship
  dsimp only
  split
  · exact errsOnly_error (declines nofun)
  · split
    · exact errsOnly_error (declines nofun)
    · exact errsOnly_map (linkage_declines _)

theorem readChange_declines (endpoint : Endpoint) (request : Request) (id : String) :
    ErrsOnly Declines (readChange endpoint request id) := by
  refine errsOnly_bind (requestData_declines request) fun data => errsOnly_bind ?_ fun _ => errsOnly_bind ?_ fun _ =>
    errsOnly_bind (readAttributes_declines data) fun _ => errsOnly_bind (readRelationships_declines data) fun _ =>
      errsOnly_ok _
  · unfold checkType
    split
    · split
      · exact errsOnly_ok _
      · exact errsOnly_error (declines nofun)
    · exact errsOnly_error (declines nofun)
  · unfold checkId
    split
    · split
      · exact errsOnly_ok _
      · exact errsOnly_error (declines nofun)
    · exact errsOnly_error (declines nofun)

theorem checkLinkOperation_declines (operation : Operation) :
    ErrsOnly Declines (checkLinkOperation operation relationship) := by
  unfold checkLinkOperation
  split
  · exact errsOnly_ok _
  · split
    · exact errsOnly_error (declines nofun)
    · exact errsOnly_error (declines nofun)
    · exact errsOnly_ok _

/-! Changes of links and of resources. -/

theorem requireTargets_declines (targets : List Identifier) :
    FailsOnly Declines (Relinking.requireTargets schema relationship targets) := by
  have lost (message : String) (status : Nat) (detail : String) :
      RequestError.notFound message ≠ .rejected status detail := by
    intro same
    cases same
  have mistaken (message : String) (status : Nat) (detail : String) :
      RequestError.conflict message ≠ .rejected status detail := by
    intro same
    cases same
  unfold Relinking.requireTargets
  split
  · exact failsOnly_throw (declines (lost _))
  · split
    · exact failsOnly_throw (declines (mistaken _))
    · dsimp only
      split
      · exact failsOnly_pure _
      · exact failsOnly_bind (reading_declines _) fun _ => failsOnly_guard (lost _) (failsOnly_pure _)

theorem requireToMany_declines (operation : String) :
    ErrsOnly Declines (Relinking.requireToMany relationship operation) := by
  unfold Relinking.requireToMany
  split
  · exact errsOnly_ok _
  · exact errsOnly_error (declines nofun)

theorem currentTargets_declines : FailsOnly Declines (Relinking.currentTargets schema type relationship owner) :=
  failsOnly_bind (reading_declines _) fun _ => failsOnly_pure _

theorem writeLinkage_declines : FailsOnly Declines (writeLinkage schema type relationship owner linkage allowed) := by
  cases linkage with
  | toOne chosen =>
      refine failsOnly_guard nofun ?_
      cases chosen with
      | none => exact failsOnly_bind (failsOnly_pure _) fun _ => writing_declines _
      | some given => exact failsOnly_bind (requireTargets_declines [given]) fun _ => writing_declines _
  | toMany targets =>
      refine failsOnly_guard nofun (failsOnly_bind (failsOnly_ofExcept (requireToMany_declines _)) fun _ => ?_)
      refine failsOnly_bind (requireTargets_declines targets) fun wanted =>
        failsOnly_bind currentTargets_declines fun current => ?_
      exact failsOnly_bind (writing_declines _) fun _ => writing_declines _

theorem appendToMany_declines : FailsOnly Declines (Relinking.appendToMany schema type relationship owner targets) :=
  failsOnly_bind (failsOnly_ofExcept (requireToMany_declines _)) fun _ =>
    failsOnly_bind (requireTargets_declines targets) fun _ => writing_declines _

theorem removeFromMany_declines :
    FailsOnly Declines (Relinking.removeFromMany schema type relationship owner targets allowed) := by
  refine failsOnly_guard nofun (failsOnly_bind (failsOnly_ofExcept (requireToMany_declines _)) fun _ => ?_)
  refine failsOnly_bind (requireTargets_declines targets) fun wanted =>
    failsOnly_bind currentTargets_declines fun current => ?_
  dsimp only
  split
  · exact failsOnly_pure _
  · exact failsOnly_bind (writing_declines _) fun _ => failsOnly_pure _

theorem changeResource_declines (api : Api) (endpoint : Endpoint) (id : String) (values : Keyed Value)
    (linkages : List (Relationship × Linkage)) :
    FailsOnly Declines (changeResource api endpoint id values linkages) := by
  refine failsOnly_bind (writing_declines _) fun found => failsOnly_guard nofun ?_
  unfold writeLinkages
  induction linkages with
  | nil => exact failsOnly_pure _
  | cons entry rest ih => exact failsOnly_bind writeLinkage_declines fun _ => ih

theorem changeLinks_declines (api : Api) (endpoint : Endpoint) (operation : Operation) (id : String) :
    FailsOnly Declines (changeLinks api endpoint operation id relationship linkage) := by
  unfold changeLinks
  refine failsOnly_bind ?_ fun _ => ?_
  · refine failsOnly_bind (reading_declines _) fun found => ?_
    split
    · exact failsOnly_pure _
    · exact failsOnly_throw (declines nofun)
  · split
    · exact failsOnly_bind appendToMany_declines fun _ => failsOnly_pure _
    · exact failsOnly_bind writeLinkage_declines fun _ => failsOnly_pure _
    · exact failsOnly_bind removeFromMany_declines fun _ => failsOnly_pure _

end

end Api

end ResourceServer
