import ResourceServer.Api.Exchange

/-! Steps that read and change a state: what comes of them, what they leave as it was, and what holds
once they succeed. -/

namespace ResourceServer

variable {σ ε δ α β γ : Type}

/-- What comes of a step begun in a state, and the state after it. -/
def execute (step : ExceptT ε (StateM σ) α) (state : σ) : Except ε α × σ :=
  (ExceptT.run step).run state

theorem execute_outcome {step : ExceptT ε (StateM σ) α} {state : σ} {result : Except ε α}
    (outcome : (execute step state).1 = result) : execute step state = (result, (execute step state).2) := by
  rw [← outcome]

@[simp] theorem execute_pure (value : α) (state : σ) :
    execute (pure value : ExceptT ε (StateM σ) α) state = (.ok value, state) := rfl

@[simp] theorem execute_throw (error : ε) (state : σ) :
    execute (throw error : ExceptT ε (StateM σ) α) state = (.error error, state) := rfl

@[simp] theorem execute_get (state : σ) :
    execute (get : ExceptT ε (StateM σ) σ) state = (.ok state, state) := rfl

@[simp] theorem execute_set (next state : σ) :
    execute (set next : ExceptT ε (StateM σ) PUnit) state = (.ok ⟨⟩, next) := rfl

@[simp] theorem execute_modify (change : σ → σ) (state : σ) :
    execute (modify change : ExceptT ε (StateM σ) PUnit) state = (.ok ⟨⟩, change state) := rfl

theorem execute_lift (step : StateM σ α) (state : σ) :
    execute (liftM step : ExceptT ε (StateM σ) α) state =
      (.ok (step.run state).1, (step.run state).2) := rfl

theorem execute_bind (step : ExceptT ε (StateM σ) α) (next : α → ExceptT ε (StateM σ) β)
    (state : σ) :
    execute (step >>= next) state =
      match execute step state with
      | (.ok value, after) => execute (next value) after
      | (.error error, after) => (.error error, after) := by
  simp only [execute, ExceptT.run_bind, StateT.run_bind]
  rcases (ExceptT.run step).run state with ⟨result, after⟩
  cases result <;> rfl

theorem execute_bind_done {step : ExceptT ε (StateM σ) α} {next : α → ExceptT ε (StateM σ) β} {start middle : σ}
    {value : α} (run : execute step start = (.ok value, middle)) :
    execute (step >>= next) start = execute (next value) middle := by
  rw [execute_bind, run]

theorem execute_bind_failed {step : ExceptT ε (StateM σ) α} {next : α → ExceptT ε (StateM σ) β} {start finish : σ}
    {error : ε} (run : execute step start = (.error error, finish)) :
    execute (step >>= next) start = (.error error, finish) := by
  rw [execute_bind, run]

theorem execute_bind_ok {step : ExceptT ε (StateM σ) α} {next : α → ExceptT ε (StateM σ) β}
    {state after : σ} {value : β} (run : execute (step >>= next) state = (.ok value, after)) :
    ∃ first middle, execute step state = (.ok first, middle) ∧
      execute (next first) middle = (.ok value, after) := by
  rw [execute_bind] at run
  rcases outcome : execute step state with ⟨result, middle⟩
  rw [outcome] at run
  cases result with
  | error error => cases run
  | ok first => exact ⟨first, middle, rfl, run⟩

/-- Whatever comes of a step, it leaves a view of the state as it was. -/
structure Keeps (view : σ → γ) (step : ExceptT ε (StateM σ) α) : Prop where
  same : ∀ state, view (execute step state).2 = view state

/-- A step begun where `before` holds ends, if it succeeds, where `after` holds of its value. -/
structure Establishes (before : σ → Prop) (step : ExceptT ε (StateM σ) α)
    (after : α → σ → Prop) : Prop where
  sound : ∀ {state next : σ} {value : α}, before state → execute step state = (.ok value, next) →
    after value next

section Keeps

variable {view : σ → γ}

theorem keeps_pure (value : α) : Keeps view (pure value : ExceptT ε (StateM σ) α) :=
  ⟨fun _ => rfl⟩

theorem keeps_throw (error : ε) : Keeps view (throw error : ExceptT ε (StateM σ) α) :=
  ⟨fun _ => rfl⟩

theorem keeps_get : Keeps view (get : ExceptT ε (StateM σ) σ) :=
  ⟨fun _ => rfl⟩

theorem keeps_modify {change : σ → σ} (same : ∀ state, view (change state) = view state) :
    Keeps view (modify change : ExceptT ε (StateM σ) PUnit) :=
  ⟨same⟩

theorem keeps_bind {step : ExceptT ε (StateM σ) α} {next : α → ExceptT ε (StateM σ) β}
    (first : Keeps view step) (second : ∀ value, Keeps view (next value)) :
    Keeps view (step >>= next) := by
  refine ⟨fun state => ?_⟩
  have start := first.same state
  rw [execute_bind]
  rcases outcome : execute step state with ⟨result, middle⟩
  rw [outcome] at start
  cases result with
  | error error => exact start
  | ok value => exact ((second value).same middle).trans start

theorem keeps_map {step : ExceptT ε (StateM σ) α} (change : α → β) (kept : Keeps view step) :
    Keeps view (change <$> step) := by
  rw [map_eq_pure_bind]
  exact keeps_bind kept fun value => keeps_pure (change value)

theorem keeps_guard {failed : Prop} [Decidable failed] {error : ε}
    {next : PUnit → ExceptT ε (StateM σ) β} (kept : Keeps view (next ⟨⟩)) :
    Keeps view (if failed then throw error >>= next else next ⟨⟩) := by
  split
  · exact ⟨fun _ => rfl⟩
  · exact kept

theorem keeps_forM {items : List α} {step : α → ExceptT ε (StateM σ) PUnit}
    (each : ∀ item, Keeps view (step item)) : Keeps view (items.forM step) := by
  induction items with
  | nil => exact keeps_pure _
  | cons item rest ih => exact keeps_bind (each item) fun _ => ih

theorem keeps_mapM {items : List α} {step : α → ExceptT ε (StateM σ) β}
    (each : ∀ item, Keeps view (step item)) : Keeps view (items.mapM step) := by
  induction items with
  | nil => exact keeps_pure _
  | cons item rest ih =>
      rw [List.mapM_cons]
      exact keeps_bind (each item) fun _ => keeps_bind ih fun _ => keeps_pure _

theorem keeps_foldlM {items : List α} {step : β → α → ExceptT ε (StateM σ) β}
    (each : ∀ value item, Keeps view (step value item)) (start : β) :
    Keeps view (items.foldlM step start) := by
  induction items generalizing start with
  | nil => exact keeps_pure _
  | cons item rest ih =>
      rw [List.foldlM_cons]
      exact keeps_bind (each start item) ih

theorem keeps_view {other : σ → δ} {step : ExceptT ε (StateM σ) α} (part : γ → δ)
    (kept : Keeps view step) (same : ∀ state, other state = part (view state)) :
    Keeps other step := by
  refine ⟨fun state => ?_⟩
  rw [same, same, kept.same state]

end Keeps

section Establishes

variable {before : σ → Prop} {after : α → σ → Prop}

theorem establishes_pure {value : α} (holds : ∀ state, before state → after value state) :
    Establishes before (pure value : ExceptT ε (StateM σ) α) after := by
  refine ⟨fun {state next value'} start run => ?_⟩
  cases run
  exact holds state start

theorem establishes_throw (error : ε) :
    Establishes before (throw error : ExceptT ε (StateM σ) α) after :=
  ⟨fun _ run => nomatch run⟩

theorem establishes_bind {step : ExceptT ε (StateM σ) α} {next : α → ExceptT ε (StateM σ) β}
    {reached : α → σ → Prop} {last : β → σ → Prop} (first : Establishes before step reached)
    (second : ∀ value, Establishes (reached value) (next value) last) :
    Establishes before (step >>= next) last := by
  refine ⟨fun {state final value} start run => ?_⟩
  obtain ⟨found, between, one, two⟩ := execute_bind_ok run
  exact (second found).sound (first.sound start one) two

theorem establishes_throw_bind (error : ε) {next : α → ExceptT ε (StateM σ) β}
    {last : β → σ → Prop} :
    Establishes before ((throw error : ExceptT ε (StateM σ) α) >>= next) last :=
  ⟨fun _ run => nomatch run⟩

theorem establishes_guard {failed : Prop} [Decidable failed] {error : ε}
    {next : PUnit → ExceptT ε (StateM σ) β} {last : β → σ → Prop}
    (passed : ¬failed → Establishes before (next ⟨⟩) last) :
    Establishes before (if failed then throw error >>= next else next ⟨⟩) last := by
  split
  · exact establishes_throw_bind error
  · rename_i kept
    exact passed kept

theorem establishes_of_keeps (view : σ → γ) (holds : γ → Prop) {step : ExceptT ε (StateM σ) α}
    (kept : Keeps view step) :
    Establishes (fun state => holds (view state)) step fun _ state => holds (view state) := by
  refine ⟨fun {state next value} start run => ?_⟩
  have same := kept.same state
  rw [run] at same
  rw [same]
  exact start

theorem establishes_weaken {step : ExceptT ε (StateM σ) α} {before' : σ → Prop}
    {after' : α → σ → Prop} (inner : Establishes before step after)
    (start : ∀ state, before' state → before state)
    (finish : ∀ value state, after value state → after' value state) :
    Establishes before' step after' :=
  ⟨fun begun run => finish _ _ (inner.sound (start _ begun) run)⟩

theorem establishes_forM {items : List α} {step : α → ExceptT ε (StateM σ) PUnit}
    (each : ∀ item ∈ items, Establishes before (step item) fun _ => before) :
    Establishes before (items.forM step) fun _ => before := by
  induction items with
  | nil => exact establishes_pure fun _ start => start
  | cons item rest ih =>
      exact establishes_bind (each item List.mem_cons_self) fun _ =>
        ih fun other member => each other (List.mem_cons_of_mem _ member)

end Establishes

/-! Actions on a connection, and steps of handling a request that are made of them. -/

open ResourceServer.Store ResourceServer.Api

theorem execute_ofExcept (result : Except ε α) (connection : Connection) :
    execute (Action.ofExcept result) connection = (result, connection) := by
  cases result <;> rfl

theorem execute_mapError (convert : ε → δ) (action : Action ε α) (connection : Connection) :
    execute (action.mapError convert) connection =
      ((execute action connection).1.mapError convert, (execute action connection).2) := by
  unfold Action.mapError
  rw [execute_bind, execute_lift]
  unfold execute
  rcases (ExceptT.run action).run connection with ⟨result, after⟩
  cases result <;> rfl

theorem execute_perform (change : Database → Except ε (α × Database)) (connection : Connection) :
    execute (Action.perform change) connection =
      match change connection.database with
      | .ok (value, database) => (.ok value, { connection with database := database })
      | .error error => (.error error, connection) := by
  unfold Action.perform
  rw [execute_bind, execute_get]
  dsimp only
  cases change connection.database with
  | error error => rfl
  | ok outcome => rfl

theorem execute_select (select : Select) (connection : Connection) :
    (execute (Action.select select) connection).1 = select.run connection.database := by
  unfold Action.select Action.note
  rw [execute_bind, execute_get]
  dsimp only
  rw [execute_bind, execute_modify]
  dsimp only
  rw [execute_ofExcept]

theorem execute_source (action : SourceAction α) (handling : Handling) :
    execute (Handler.source action) handling =
      ((execute action handling.connection).1,
        { handling with connection := (execute action handling.connection).2 }) := by
  unfold Handler.source
  rw [execute_bind, execute_get]
  unfold execute
  rcases outcome : (ExceptT.run action).run handling.connection with ⟨result, after⟩
  cases result <;> simp only [outcome] <;> rfl

theorem execute_attempt (action : Handler α) (handling : Handling) :
    execute (Handler.attempt action) handling =
      (.ok (execute action handling).1, (execute action handling).2) := rfl

theorem keeps_ofExcept {view : Connection → γ} (result : Except ε α) :
    Keeps view (Action.ofExcept result) := by
  refine ⟨fun connection => ?_⟩
  rw [execute_ofExcept]

theorem keeps_mapError {view : Connection → γ} {action : Action ε α} (convert : ε → δ)
    (kept : Keeps view action) : Keeps view (action.mapError convert) := by
  refine ⟨fun connection => ?_⟩
  rw [execute_mapError]
  exact kept.same connection

theorem keeps_source {view : Connection → γ} {action : SourceAction α} (kept : Keeps view action) :
    Keeps (fun handling => view handling.connection) (Handler.source action) := by
  refine ⟨fun handling => ?_⟩
  rw [execute_source]
  exact kept.same handling.connection

theorem keeps_result {view : Handling → γ} (result : Except RequestError α) :
    Keeps view (Handler.ofExcept result) := by
  cases result with
  | ok value => exact keeps_pure value
  | error error => exact keeps_throw error

section

variable {before : Connection → Prop} {after : α → Connection → Prop}

/-- A step that goes on with a result, where the result is there. -/
theorem establishes_given {result : Except ε α} {next : α → Action ε β}
    {last : β → Connection → Prop}
    (second : ∀ value, result = .ok value → Establishes before (next value) last) :
    Establishes before (Action.ofExcept result >>= next) last := by
  refine ⟨fun {connection after value} start run => ?_⟩
  rw [execute_bind, execute_ofExcept] at run
  cases outcome : result with
  | error error =>
      rw [outcome] at run
      cases run
  | ok found =>
      rw [outcome] at run
      exact (second found outcome).sound start run

theorem establishes_mapError {action : Action ε α} (convert : ε → δ)
    (inner : Establishes before action after) : Establishes before (action.mapError convert) after := by
  refine ⟨fun {connection next value} start run => ?_⟩
  rw [execute_mapError] at run
  rcases outcome : execute action connection with ⟨result, reached⟩
  rw [outcome] at run
  cases result with
  | error error => cases run
  | ok found =>
      cases run
      exact inner.sound start outcome

theorem establishes_source {action : SourceAction α} (inner : Establishes before action after) :
    Establishes (fun handling => before handling.connection) (Handler.source action)
      fun value handling => after value handling.connection := by
  refine ⟨fun {handling next value} start run => ?_⟩
  rw [execute_source] at run
  rcases outcome : execute action handling.connection with ⟨result, reached⟩
  rw [outcome] at run
  cases run
  exact inner.sound start outcome

theorem establishes_result {before : Handling → Prop} {result : Except RequestError α}
    (after : α → Handling → Prop)
    (holds : ∀ value, result = .ok value → ∀ handling, before handling → after value handling) :
    Establishes before (Handler.ofExcept result) after := by
  cases result with
  | error error => exact establishes_throw error
  | ok value => exact establishes_pure fun handling start => holds value rfl handling start

end

def Mapping.readBack (type : EntityType) (id : String) : Mapping.MappingAction Instance := do
  match ← Mapping.get type [id] with
  | resource :: _ => return resource
  | [] => throw (.vanished type.name id)

end ResourceServer
