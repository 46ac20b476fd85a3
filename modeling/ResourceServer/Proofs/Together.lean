import ResourceServer.Proofs.Atomicity
import ResourceServer.Proofs.Results

/-! Two computations that come to values alike or fail with one error, among them steps that read two databases. -/

namespace ResourceServer

open ResourceServer.Store ResourceServer.Mapping ResourceServer.Api

variable {σ ε δ α β γ α' β' : Type}

theorem mapM_congr {items : List α} {step step' : α → Except ε β}
    (each : ∀ item ∈ items, step item = step' item) : items.mapM step = items.mapM step' := by
  induction items with
  | nil => rfl
  | cons item rest ih =>
      rw [List.mapM_cons, List.mapM_cons, each item List.mem_cons_self,
        ih fun other member => each other (List.mem_cons_of_mem _ member)]

/-- Two outcomes that are values alike, or one error. -/
inductive Together (same : α → β → Prop) : Except ε α → Except ε β → Prop
  | ok {value : α} {other : β} (alike : same value other) : Together same (.ok value) (.ok other)
  | error (failure : ε) : Together same (.error failure) (.error failure)

namespace Together

theorem eq {result other : Except ε α} (together : Together Eq result other) : result = other := by
  cases together with
  | ok alike => rw [alike]
  | error _ => rfl

theorem refl (result : Except ε α) : Together Eq result result := by
  cases result with
  | ok value => exact .ok rfl
  | error failure => exact .error failure

theorem of_eq {result other : Except ε α} (equal : result = other) : Together Eq result other :=
  equal ▸ refl result

theorem mono {same weaker : α → β → Prop} {result : Except ε α} {other : Except ε β}
    (together : Together same result other) (weaken : ∀ value other, same value other → weaker value other) :
    Together weaker result other := by
  cases together with
  | ok alike => exact .ok (weaken _ _ alike)
  | error failure => exact .error failure

theorem bind {same : α → β → Prop} {same' : α' → β' → Prop} {result : Except ε α} {other : Except ε β}
    (together : Together same result other) {next : α → Except ε α'} {next' : β → Except ε β'}
    (later : ∀ value other, same value other → Together same' (next value) (next' other)) :
    Together same' (result >>= next) (other >>= next') := by
  cases together with
  | ok alike => exact later _ _ alike
  | error failure => exact .error failure

theorem map {same : α → β → Prop} {same' : α' → β' → Prop} {result : Except ε α} {other : Except ε β}
    (together : Together same result other) {change : α → α'} {change' : β → β'}
    (later : ∀ value other, same value other → same' (change value) (change' other)) :
    Together same' (result.map change) (other.map change') := by
  cases together with
  | ok alike => exact .ok (later _ _ alike)
  | error failure => exact .error failure

theorem mapError {same : α → β → Prop} {result : Except ε α} {other : Except ε β}
    (together : Together same result other) (change : ε → δ) :
    Together same (result.mapError change) (other.mapError change) := by
  cases together with
  | ok alike => exact .ok alike
  | error failure => exact .error _

section

variable {alike : α → β → Prop} {items : List α} {others : List β}
  (aligned : List.Forall₂ alike items others)
include aligned

theorem mapM {same : α' → β' → Prop} {step : α → Except ε α'} {step' : β → Except ε β'}
    (each : ∀ item other, alike item other → Together same (step item) (step' other)) :
    Together (List.Forall₂ same) (items.mapM step) (others.mapM step') := by
  induction aligned with
  | nil => exact .ok .nil
  | cons one _ ih =>
      rw [List.mapM_cons, List.mapM_cons]
      exact (each _ _ one).bind fun _ _ first => ih.bind fun _ _ rest => .ok (.cons first rest)

theorem filterM {test : α → Except ε Bool} {test' : β → Except ε Bool}
    (each : ∀ item other, alike item other → test item = test' other) :
    Together (List.Forall₂ alike) (items.filterM test) (others.filterM test') := by
  have kept {before : List α} {before' : List β} (begun : List.Forall₂ alike before before') :
      Together (List.Forall₂ alike) (items.filterAuxM test before) (others.filterAuxM test' before') := by
    induction aligned generalizing before before' with
    | nil => exact .ok begun
    | @cons item other _ _ one _ ih =>
        rw [List.filterAuxM, List.filterAuxM, each _ _ one]
        refine (refl (test' other)).bind ?_
        rintro passed _ rfl
        cases passed
        · exact ih begun
        · exact ih (.cons one begun)
  rw [List.filterM, List.filterM]
  exact (kept .nil).bind fun _ _ found => .ok (List.rel_reverse found)

theorem anyM {test : α → Except ε Bool} {test' : β → Except ε Bool}
    (each : ∀ item other, alike item other → test item = test' other) :
    items.anyM test = others.anyM test' := by
  induction aligned with
  | nil => rfl
  | cons one _ ih => rw [List.anyM, List.anyM, each _ _ one, ih]

end

theorem foldlM {same : α → β → Prop} {items : List γ} {step : α → γ → Except ε α} {step' : β → γ → Except ε β}
    (each : ∀ item ∈ items, ∀ state other, same state other → Together same (step state item) (step' other item))
    {start : α} {start' : β} (begun : same start start') :
    Together same (items.foldlM step start) (items.foldlM step' start') := by
  induction items generalizing start start' with
  | nil => exact .ok begun
  | cons item rest ih =>
      rw [List.foldlM_cons, List.foldlM_cons]
      exact (each item List.mem_cons_self _ _ begun).bind fun _ _ next =>
        ih (fun item member => each item (List.mem_cons_of_mem _ member)) next

end Together

/-- Two steps that begin in states that belong together come to values alike, or to one error, and end in states
that belong together. -/
structure Parallel (paired : σ → σ → Prop) (same : α → β → Prop) (first : ExceptT ε (StateM σ) α)
    (second : ExceptT ε (StateM σ) β) : Prop where
  sound : ∀ {start other : σ}, paired start other →
    Together same (execute first start).1 (execute second other).1 ∧
      paired (execute first start).2 (execute second other).2

section

variable {paired : σ → σ → Prop} {same : α → β → Prop}

theorem parallel_pure {value : α} {other : β} (alike : same value other) :
    Parallel paired same (pure value : ExceptT ε (StateM σ) α) (pure other) :=
  ⟨fun begun => ⟨.ok alike, begun⟩⟩

theorem parallel_throw (error : ε) :
    Parallel paired same (throw error : ExceptT ε (StateM σ) α) (throw error : ExceptT ε (StateM σ) β) :=
  ⟨fun begun => ⟨.error error, begun⟩⟩

theorem Parallel.bind {first : ExceptT ε (StateM σ) α} {second : ExceptT ε (StateM σ) β}
    {same' : α' → β' → Prop} {next : α → ExceptT ε (StateM σ) α'} {next' : β → ExceptT ε (StateM σ) β'}
    (parallel : Parallel paired same first second)
    (later : ∀ value other, same value other → Parallel paired same' (next value) (next' other)) :
    Parallel paired same' (first >>= next) (second >>= next') := by
  refine ⟨fun {start other} begun => ?_⟩
  have ⟨together, reached⟩ := parallel.sound begun
  rw [execute_bind, execute_bind]
  rcases one : execute first start with ⟨result, between⟩
  rcases two : execute second other with ⟨result', between'⟩
  rw [one, two] at together reached
  dsimp only at together
  cases together with
  | ok alike => exact (later _ _ alike).sound reached
  | error failure => exact ⟨.error failure, reached⟩

theorem Parallel.mapM_same {same : α' → β' → Prop} {items : List α} {step : α → ExceptT ε (StateM σ) α'}
    {step' : α → ExceptT ε (StateM σ) β'}
    (each : ∀ item ∈ items, Parallel paired same (step item) (step' item)) :
    Parallel paired (List.Forall₂ same) (items.mapM step) (items.mapM step') := by
  induction items with
  | nil => exact parallel_pure .nil
  | cons item rest ih =>
      rw [List.mapM_cons, List.mapM_cons]
      exact (each item List.mem_cons_self).bind fun _ _ first =>
        (ih fun other member => each other (List.mem_cons_of_mem _ member)).bind fun _ _ others =>
          parallel_pure (.cons first others)

theorem Parallel.foldlM {related : α → β → Prop} {same : α' → β' → Prop} {items : List α} {others : List β}
    {step : α' → α → ExceptT ε (StateM σ) α'} {step' : β' → β → ExceptT ε (StateM σ) β'}
    (aligned : List.Forall₂ related items others)
    (each : ∀ item other, related item other → ∀ value value', same value value' →
      Parallel paired same (step value item) (step' value' other))
    {start : α'} {start' : β'} (begun : same start start') :
    Parallel paired same (items.foldlM step start) (others.foldlM step' start') := by
  induction aligned generalizing start start' with
  | nil => exact parallel_pure begun
  | cons one _ ih =>
      rw [List.foldlM_cons, List.foldlM_cons]
      exact (each _ _ one _ _ begun).bind fun _ _ next => ih next

theorem Parallel.foldlM_same {same : α' → β' → Prop} {items : List α}
    {step : α' → α → ExceptT ε (StateM σ) α'} {step' : β' → α → ExceptT ε (StateM σ) β'}
    (each : ∀ item ∈ items, ∀ value value', same value value' →
      Parallel paired same (step value item) (step' value' item))
    {start : α'} {start' : β'} (begun : same start start') :
    Parallel paired same (items.foldlM step start) (items.foldlM step' start') := by
  induction items generalizing start start' with
  | nil => exact parallel_pure begun
  | cons item rest ih =>
      rw [List.foldlM_cons, List.foldlM_cons]
      exact (each item List.mem_cons_self _ _ begun).bind fun _ _ next =>
        ih (fun other member => each other (List.mem_cons_of_mem _ member)) next

end

/-! Actions on connections to two databases. -/

def Connected (left right : Database) (start other : Connection) : Prop :=
  start.database = left ∧ other.database = right

section

variable {left right : Database} {same : α → β → Prop}

theorem Connected.kept {start other : Connection} (connected : Connected left right start other)
    {first : Action ε α} {second : Action ε β} (kept : Keeps Connection.stored first)
    (kept' : Keeps Connection.stored second) :
    Connected left right (execute first start).2 (execute second other).2 :=
  ⟨(congrArg Prod.fst (kept.same start)).trans connected.1,
    (congrArg Prod.fst (kept'.same other)).trans connected.2⟩

theorem parallel_ofExcept {result : Except ε α} {other : Except ε β} (together : Together same result other) :
    Parallel (Connected left right) same (Action.ofExcept result) (Action.ofExcept other) := by
  refine ⟨fun begun => ?_⟩
  rw [execute_ofExcept, execute_ofExcept]
  exact ⟨together, begun⟩

theorem parallel_given {result : Except ε γ} {next : γ → Action ε α} {next' : γ → Action ε β}
    (later : ∀ value, result = .ok value → Parallel (Connected left right) same (next value) (next' value)) :
    Parallel (Connected left right) same (Action.ofExcept result >>= next) (Action.ofExcept result >>= next') := by
  cases result with
  | ok value => exact later value rfl
  | error failure => exact ⟨fun begun => ⟨.error failure, begun⟩⟩

theorem Parallel.mapError {first : Action ε α} {second : Action ε β}
    (parallel : Parallel (Connected left right) same first second) (convert : ε → δ) :
    Parallel (Connected left right) same (first.mapError convert) (second.mapError convert) := by
  refine ⟨fun begun => ?_⟩
  rw [execute_mapError, execute_mapError]
  have ⟨together, reached⟩ := parallel.sound begun
  exact ⟨together.mapError convert, reached⟩

theorem parallel_select {select : Select} {same : List (Except StoreError Row) → List (Except StoreError Row) → Prop}
    (together : Together same (select.run left) (select.run right)) :
    Parallel (Connected left right) same (Action.select select) (Action.select select) := by
  refine ⟨fun {start other} begun => ⟨?_, begun.kept (select_keeps select) (select_keeps select)⟩⟩
  rw [execute_select, execute_select, begun.1, begun.2]
  exact together

def Handled (left right : Database) (start other : Handling) : Prop :=
  Connected left right start.connection other.connection

theorem parallel_source {first : SourceAction α} {second : SourceAction β}
    (parallel : Parallel (Connected left right) same first second) :
    Parallel (Handled left right) same (Handler.source first) (Handler.source second) := by
  refine ⟨fun begun => ?_⟩
  rw [execute_source, execute_source]
  exact parallel.sound begun

theorem parallel_result {paired : Handling → Handling → Prop} {result : Except RequestError γ}
    {next : γ → Handler α} {next' : γ → Handler β}
    (later : ∀ value, result = .ok value → Parallel paired same (next value) (next' value)) :
    Parallel paired same (Handler.ofExcept result >>= next) (Handler.ofExcept result >>= next') := by
  cases result with
  | ok value => exact later value rfl
  | error failure => exact ⟨fun begun => ⟨.error failure, begun⟩⟩

end

end ResourceServer
