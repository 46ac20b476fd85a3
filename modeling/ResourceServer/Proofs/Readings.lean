import ResourceServer.Proofs.Atomicity
import ResourceServer.Proofs.Results

/-! Actions that read: what they have come to on a database, and what they are sure to come to. -/

namespace ResourceServer

open ResourceServer.Store ResourceServer.Mapping

variable {ε α β γ : Type} {database : Database}

def Runs (database : Database) (action : Action ε α) (value : α) : Prop :=
  ∃ start finish, start.database = database ∧ execute action start = (.ok value, finish)

/-- On every connection to a database an action comes to a value of which something holds, and leaves the
database. -/
def Delivers (database : Database) (action : Action ε α) (holds : α → Prop) : Prop :=
  ∀ start, start.database = database → ∃ value finish,
    execute action start = (.ok value, finish) ∧ finish.database = database ∧ holds value

def ComesTo (database : Database) (action : Action ε α) (result : Except ε α) : Prop :=
  ∀ start, start.database = database →
    (execute action start).1 = result ∧ (execute action start).2.database = database

theorem runs_pure {value other : α} (run : Runs database (pure value : Action ε α) other) : other = value := by
  obtain ⟨start, finish, _, run⟩ := run
  cases run
  rfl

theorem runs_throw {error : ε} {value : α} : ¬Runs database (throw error : Action ε α) value := by
  rintro ⟨start, finish, _, run⟩
  cases run

theorem runs_bind {action : Action ε α} (kept : Keeps Connection.stored action)
    {next : α → Action ε β} {value : β} (run : Runs database (action >>= next) value) :
    ∃ first, Runs database action first ∧ Runs database (next first) value := by
  obtain ⟨start, finish, here, run⟩ := run
  obtain ⟨first, middle, begun, ended⟩ := execute_bind_ok run
  have same := congrArg Prod.fst (kept.same start)
  rw [begun] at same
  exact ⟨first, ⟨start, middle, here, begun⟩, middle, finish, same.trans here, ended⟩

theorem runs_ofExcept {result : Except ε α} {value : α}
    (run : Runs database (Action.ofExcept result) value) : result = .ok value := by
  obtain ⟨start, finish, _, run⟩ := run
  rw [execute_ofExcept] at run
  exact congrArg Prod.fst run

theorem runs_reading {action : MappingAction α} {value : α}
    (run : Runs database (SourceAction.reading action) value) :
    ∃ start, start.database = database ∧ (execute action start).1 = .ok value := by
  obtain ⟨start, finish, here, run⟩ := run
  unfold SourceAction.reading at run
  rw [execute_mapError] at run
  refine ⟨start, here, ?_⟩
  have given := congrArg Prod.fst run
  dsimp only at given
  cases result : (execute action start).1 with
  | ok other =>
      rw [result] at given
      cases given
      rfl
  | error error =>
      rw [result] at given
      cases given

theorem delivers_pure {value : α} {holds : α → Prop} (given : holds value) :
    Delivers database (pure value : Action ε α) holds :=
  fun start here => ⟨value, start, rfl, here, given⟩

theorem Delivers.bind {action : Action ε α} {next : α → Action ε β} {holds : α → Prop} {later : β → Prop}
    (first : Delivers database action holds) (second : ∀ value, holds value → Delivers database (next value) later) :
    Delivers database (action >>= next) later := by
  intro start here
  obtain ⟨value, middle, run, kept, given⟩ := first start here
  obtain ⟨other, finish, run', kept', given'⟩ := second value given middle kept
  refine ⟨other, finish, ?_, kept', given'⟩
  rw [execute_bind, run]
  exact run'

theorem Delivers.mono {action : Action ε α} {holds later : α → Prop} (first : Delivers database action holds)
    (weaker : ∀ value, holds value → later value) : Delivers database action later := by
  intro start here
  obtain ⟨value, finish, run, kept, given⟩ := first start here
  exact ⟨value, finish, run, kept, weaker value given⟩

theorem Delivers.of_runs {action : Action ε α} {holds : α → Prop} (first : Delivers database action holds)
    {value : α} (run : Runs database action value) : holds value := by
  obtain ⟨start, finish, here, run⟩ := run
  obtain ⟨other, _, again, _, given⟩ := first start here
  cases run.symm.trans again
  exact given

theorem delivers_ofExcept {result : Except ε α} {value : α} (given : result = .ok value) :
    Delivers database (Action.ofExcept result) (· = value) := by
  intro start here
  refine ⟨value, start, ?_, here, rfl⟩
  rw [execute_ofExcept, given]

theorem delivers_reading {action : MappingAction α} (kept : Keeps Connection.stored action)
    {holds : α → Prop}
    (gives : ∀ start, start.database = database → ∃ value, (execute action start).1 = .ok value ∧ holds value) :
    Delivers database (SourceAction.reading action) holds := by
  intro start here
  obtain ⟨value, run, given⟩ := gives start here
  refine ⟨value, (execute action start).2, ?_, (congrArg Prod.fst (kept.same start)).trans here, given⟩
  unfold SourceAction.reading
  rw [execute_mapError, run]
  rfl

theorem delivers_mapM {items : List α} {step : α → Action ε β} (holds : α → β → Prop)
    (each : ∀ item ∈ items, Delivers database (step item) (holds item)) :
    Delivers database (items.mapM step) (List.Forall₂ holds items) := by
  induction items with
  | nil => exact delivers_pure .nil
  | cons item rest ih =>
      rw [List.mapM_cons]
      refine (each item List.mem_cons_self).bind fun value given => ?_
      refine (ih fun other member => each other (List.mem_cons_of_mem _ member)).bind fun values others => ?_
      exact delivers_pure (.cons given others)

theorem runs_mapM {items : List α} {step : α → Action ε β} (kept : ∀ item, Keeps Connection.stored (step item))
    {values : List β} (run : Runs database (items.mapM step) values) :
    List.Forall₂ (fun item value => Runs database (step item) value) items values := by
  induction items generalizing values with
  | nil =>
      rw [List.mapM_nil] at run
      rw [runs_pure run]
      exact .nil
  | cons item rest ih =>
      rw [List.mapM_cons] at run
      obtain ⟨value, first, run⟩ := runs_bind (kept item) run
      obtain ⟨others, later, run⟩ := runs_bind (keeps_mapM kept) run
      rw [runs_pure run]
      exact .cons first (ih later)

theorem comesTo_pure (value : α) : ComesTo database (pure value : Action ε α) (.ok value) :=
  fun _ here => ⟨rfl, here⟩

theorem comesTo_throw (error : ε) : ComesTo database (throw error : Action ε α) (.error error) :=
  fun _ here => ⟨rfl, here⟩

theorem comesTo_guard {fine : Prop} [Decidable fine] (value : α)
    (error : ε) :
    ComesTo database (if fine then pure value else throw error : Action ε α)
      (if fine then .ok value else .error error) := by
  split
  · exact comesTo_pure value
  · exact comesTo_throw error

theorem ComesTo.bind {action : Action ε α} {result : Except ε α} {next : α → Action ε β}
    {later : α → Except ε β} (first : ComesTo database action result)
    (second : ∀ value, ComesTo database (next value) (later value)) :
    ComesTo database (action >>= next) (result >>= later) := by
  intro start here
  obtain ⟨given, kept⟩ := first start here
  rw [execute_bind]
  rcases outcome : execute action start with ⟨reached, middle⟩
  rw [outcome] at given kept
  subst given
  cases reached with
  | error error => exact ⟨rfl, kept⟩
  | ok value => exact second value middle kept

theorem comesTo_mapM {items : List α} {step : α → Action ε β} {result : α → Except ε β}
    (each : ∀ item, ComesTo database (step item) (result item)) :
    ComesTo database (items.mapM step) (items.mapM result) := by
  induction items with
  | nil => exact comesTo_pure []
  | cons item rest ih =>
      rw [List.mapM_cons, List.mapM_cons]
      exact (each item).bind fun value => ih.bind fun values => comesTo_pure (value :: values)

theorem ComesTo.runs {action : Action ε α} {value : α} (comes : ComesTo database action (.ok value)) :
    Runs database action value := by
  refine ⟨⟨database, none, []⟩, _, rfl, Prod.ext ?_ rfl⟩
  exact (comes _ rfl).1

theorem ComesTo.of_runs {action : Action ε α} {result : Except ε α} {value : α}
    (comes : ComesTo database action result) (run : Runs database action value) :
    result = .ok value := by
  obtain ⟨start, finish, here, run⟩ := run
  rw [← (comes start here).1, run]

end ResourceServer
