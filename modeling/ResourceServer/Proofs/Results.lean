import Mathlib.Data.List.Forall2

/-! Computations that may fail, and what is known once they have succeeded. -/

namespace ResourceServer

variable {ε α β γ : Type}

theorem bind_ok {result : Except ε α} {next : α → Except ε β} {value : β}
    (run : (result >>= next) = .ok value) : ∃ first, result = .ok first ∧ next first = .ok value := by
  cases result with
  | error error => cases run
  | ok first => exact ⟨first, rfl, run⟩

theorem bind_of_ok {result : Except ε α} {next : α → Except ε β} {first : α} {value : β}
    (one : result = .ok first) (last : next first = .ok value) : (result >>= next) = .ok value := by
  rw [one]
  exact last

theorem bind_error {result : Except ε α} {next : α → Except ε β} {error : ε}
    (failed : (result >>= next) = .error error) :
    result = .error error ∨ ∃ value, result = .ok value ∧ next value = .error error := by
  cases result with
  | error other =>
      cases failed
      exact .inl rfl
  | ok value => exact .inr ⟨value, rfl, failed⟩

theorem map_ok {result : Except ε α} {change : α → β} {value : β}
    (run : result.map change = .ok value) : ∃ first, result = .ok first ∧ change first = value := by
  cases result with
  | error error => cases run
  | ok first =>
      cases run
      exact ⟨first, rfl, rfl⟩

theorem mapError_ok {δ : Type} {result : Except ε α} {change : ε → δ} {value : α}
    (run : result.mapError change = .ok value) : result = .ok value := by
  cases result with
  | error error => cases run
  | ok first =>
      cases run
      rfl

theorem mapM_cons_ok {step : α → Except ε β} {item : α} {items : List α} {values : List β}
    (all : (item :: items).mapM step = .ok values) :
    ∃ value rest, step item = .ok value ∧ items.mapM step = .ok rest ∧ values = value :: rest := by
  rw [List.mapM_cons] at all
  obtain ⟨value, one, others⟩ := bind_ok all
  obtain ⟨rest, found, same⟩ := bind_ok others
  cases same
  exact ⟨value, rest, one, found, rfl⟩

/-- Steps that all succeed. -/
theorem mapM_ok {step : α → Except ε β} {items : List α} (change : α → β)
    (each : ∀ item ∈ items, step item = .ok (change item)) :
    items.mapM step = .ok (items.map change) := by
  induction items with
  | nil => rfl
  | cons item rest ih =>
      rw [List.mapM_cons, each item List.mem_cons_self,
        ih fun other member => each other (List.mem_cons_of_mem item member)]
      rfl

theorem mapM_succeeds {step : α → Except ε β} {items : List α}
    (each : ∀ item ∈ items, ∃ value, step item = .ok value) :
    ∃ values, items.mapM step = .ok values := by
  induction items with
  | nil => exact ⟨[], rfl⟩
  | cons item rest ih =>
      obtain ⟨value, one⟩ := each item List.mem_cons_self
      obtain ⟨values, others⟩ := ih fun other member => each other (List.mem_cons_of_mem item member)
      refine ⟨value :: values, ?_⟩
      rw [List.mapM_cons, one, others]
      rfl

theorem filterM_map_ok {test : α → Except ε Bool} {place : γ → α} {items : List γ}
    (passes : γ → Bool) (each : ∀ item ∈ items, test (place item) = .ok (passes item)) :
    (items.map place).filterM test = .ok ((items.filter passes).map place) := by
  have kept (before : List α) : (items.map place).filterAuxM test before =
      .ok (((items.filter passes).map place).reverse ++ before) := by
    induction items generalizing before with
    | nil => rfl
    | cons item rest ih =>
        have later := ih fun other member => each other (List.mem_cons_of_mem item member)
        rw [List.map_cons, List.filterAuxM, each item List.mem_cons_self]
        cases passed : passes item
        · exact (later before).trans (by simp [passed])
        · exact (later (place item :: before)).trans (by simp [passed])
  rw [List.filterM, kept]
  simp [pure, Except.pure, bind, Except.bind]

theorem anyM_map_ok {test : α → Except ε Bool} {place : γ → α} {items : List γ} (passes : γ → Bool)
    (each : ∀ item ∈ items, test (place item) = .ok (passes item)) :
    (items.map place).anyM test = .ok (items.any passes) := by
  induction items with
  | nil => rfl
  | cons item rest ih =>
      rw [List.map_cons, List.anyM, each item List.mem_cons_self,
        ih fun other member => each other (List.mem_cons_of_mem item member), List.any_cons]
      cases passes item <;> rfl

theorem mem_filterMapM {items : List α} {step : α → Except ε (Option β)} {found : List β}
    (all : items.filterMapM step = .ok found) {item : α} (member : item ∈ items) {value : β}
    (one : step item = .ok (some value)) : value ∈ found := by
  induction items generalizing found with
  | nil => cases member
  | cons first rest ih =>
      rw [List.filterMapM_cons] at all
      obtain ⟨result, outcome, others⟩ := bind_ok all
      cases result with
      | none =>
          rcases List.mem_cons.mp member with rfl | inside
          · cases one.symm.trans outcome
          · exact ih others inside
      | some value' =>
          obtain ⟨found', later, same⟩ := bind_ok others
          cases same
          rcases List.mem_cons.mp member with rfl | inside
          · cases one.symm.trans outcome
            exact List.mem_cons_self
          · exact List.mem_cons_of_mem _ (ih later inside)

theorem filterMapM_mem {items : List α} {step : α → Except ε (Option β)} {found : List β}
    (all : items.filterMapM step = .ok found) {value : β} (member : value ∈ found) :
    ∃ item ∈ items, step item = .ok (some value) := by
  induction items generalizing found with
  | nil =>
      cases all
      cases member
  | cons first rest ih =>
      rw [List.filterMapM_cons] at all
      obtain ⟨result, outcome, others⟩ := bind_ok all
      cases result with
      | none =>
          obtain ⟨item, inside, one⟩ := ih others member
          exact ⟨item, List.mem_cons_of_mem _ inside, one⟩
      | some value' =>
          obtain ⟨found', later, same⟩ := bind_ok others
          cases same
          rcases List.mem_cons.mp member with rfl | inside
          · exact ⟨first, List.mem_cons_self, outcome⟩
          · obtain ⟨item, inside, one⟩ := ih later inside
            exact ⟨item, List.mem_cons_of_mem _ inside, one⟩

theorem mapM_forall₂ {items : List α} {step : α → Except ε β} {values : List β}
    (all : items.mapM step = .ok values) :
    List.Forall₂ (fun item value => step item = .ok value) items values := by
  induction items generalizing values with
  | nil =>
      cases all
      exact .nil
  | cons first rest ih =>
      obtain ⟨value, others, one, later, rfl⟩ := mapM_cons_ok all
      exact .cons one (ih later)

/-- What a step makes of one item is among what it makes of all. -/
theorem mem_of_forall₂ {relation : α → β → Prop} {items : List α} {values : List β}
    (all : List.Forall₂ relation items values) {item : α} (member : item ∈ items) :
    ∃ value ∈ values, relation item value := by
  induction all with
  | nil => cases member
  | cons one _ ih =>
      rcases List.mem_cons.mp member with rfl | inside
      · exact ⟨_, List.mem_cons_self, one⟩
      · obtain ⟨value, inside, related⟩ := ih inside
        exact ⟨value, List.mem_cons_of_mem _ inside, related⟩

theorem forall₂_comp {first : α → β → Prop} {second : β → γ → Prop} {both : α → γ → Prop}
    {items : List α} {middle : List β} {values : List γ} (one : List.Forall₂ first items middle)
    (other : List.Forall₂ second middle values)
    (each : ∀ {item mid value}, first item mid → second mid value → both item value) :
    List.Forall₂ both items values := by
  induction one generalizing values with
  | nil =>
      cases other
      exact .nil
  | cons here _ ih =>
      cases other with
      | cons there rest => exact .cons (each here there) (ih rest)

theorem pairwise_of_forall₂ {relation : α → β → Prop} {items : List α} {values : List β}
    (all : List.Forall₂ relation items values) {before : α → α → Prop} {after : β → β → Prop}
    (pairs : items.Pairwise before)
    (each : ∀ {item value item' value'}, relation item value → relation item' value' →
      before item item' → after value value') : values.Pairwise after := by
  induction all with
  | nil => exact .nil
  | cons one rest ih =>
      obtain ⟨first, others⟩ := List.pairwise_cons.mp pairs
      refine List.pairwise_cons.mpr ⟨fun value' member => ?_, ih others⟩
      obtain ⟨item', inside, made⟩ := mem_of_forall₂ rest.flip member
      exact each one made (first item' inside)

/-- Of values that pass as the items do that they are related to, those remain that are related to the remaining
items. -/
theorem filterM_forall₂ {related : γ → α → Prop} {test : α → Except ε Bool} {items : List γ}
    {values : List α} (passes : γ → Bool) (all : List.Forall₂ related items values)
    (each : ∀ item value, related item value → test value = .ok (passes item)) :
    ∃ kept, values.filterM test = .ok kept ∧ List.Forall₂ related (items.filter passes) kept := by
  let passing (value : α) : Bool := (test value).toOption.getD false
  have alike {item : γ} {value : α} (one : related item value) : passing value = passes item :=
    congrArg (fun result => (Except.toOption result).getD false) (each item value one)
  refine ⟨values.filter passing, ?_, List.rel_filter (fun item value one => ?_) all⟩
  · have tested : ∀ value ∈ values, test (id value) = .ok (passing value) := by
      intro value member
      obtain ⟨item, _, one⟩ := mem_of_forall₂ all.flip member
      rw [alike one]
      exact each item value one
    simpa only [List.map_id] using filterM_map_ok passing tested
  · exact Eq.congr (alike one).symm rfl

theorem mapM_error_iff {step : α → Except ε β} {items : List α} :
    (∃ error, items.mapM step = .error error) ↔ ∃ item ∈ items, ∃ error, step item = .error error := by
  constructor
  · rintro ⟨error, failed⟩
    by_contra none
    have each : ∀ item ∈ items, ∃ value, step item = .ok value := by
      intro item member
      cases outcome : step item with
      | error error => exact absurd ⟨item, member, error, outcome⟩ none
      | ok value => exact ⟨value, rfl⟩
    obtain ⟨values, all⟩ := mapM_succeeds each
    rw [all] at failed
    cases failed
  · rintro ⟨item, member, error, failed⟩
    cases outcome : items.mapM step with
    | error error => exact ⟨error, rfl⟩
    | ok values =>
        obtain ⟨value, _, done⟩ := mem_of_forall₂ (mapM_forall₂ outcome) member
        rw [failed] at done
        cases done

theorem mapM_first_error {step : α → Except ε β} {items : List α} {error : ε} :
    items.mapM step = .error error ↔
      items.findSome? (fun item => match step item with
        | .ok _ => none
        | .error error => some error) = some error := by
  induction items with
  | nil => simp [pure, Except.pure]
  | cons item rest ih =>
      rw [List.mapM_cons, List.findSome?_cons]
      cases step item with
      | error other => simp [bind, Except.bind]
      | ok value =>
          rw [← ih]
          cases rest.mapM step <;> simp [bind, Except.bind, pure, Except.pure]

theorem mapM_error_mem {step : α → Except ε β} {items : List α} {error : ε}
    (failed : items.mapM step = .error error) : ∃ item ∈ items, step item = .error error := by
  obtain ⟨item, member, one⟩ := List.exists_of_findSome?_eq_some (mapM_first_error.mp failed)
  refine ⟨item, member, ?_⟩
  split at one
  · cases one
  · cases one
    assumption

theorem filterM_error {test : α → Except ε Bool} {items : List α} {item : α} {error : ε}
    (member : item ∈ items) (failed : test item = .error error) :
    ∃ error, items.filterM test = .error error := by
  have stops (before : List α) : ∃ error, items.filterAuxM test before = .error error := by
    induction items generalizing before with
    | nil => cases member
    | cons first rest ih =>
        rw [List.filterAuxM]
        cases outcome : test first with
        | error other => exact ⟨other, rfl⟩
        | ok passed =>
            rcases List.mem_cons.mp member with rfl | inside
            · rw [failed] at outcome
              cases outcome
            · exact ih inside _
  obtain ⟨error, stopped⟩ := stops []
  refine ⟨error, ?_⟩
  rw [List.filterM, stopped]
  rfl

end ResourceServer
