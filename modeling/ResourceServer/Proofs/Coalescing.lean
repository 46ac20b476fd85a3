import ResourceServer.Proofs.Steps
import ResourceServer.Proofs.Positions

/-! What merging equalities into tests of membership does to the truth of a disjunction, in every place. -/

namespace ResourceServer

open ResourceServer.Store ResourceServer.Mapping
open ResourceServer.Filter (Predicate)

namespace Store.Truth

theorem eq_of_iff {one other : Truth} (holds : one = yes ↔ other = yes)
    (fails : one = no ↔ other = no) : one = other := by
  cases one <;> cases other <;> simp_all

theorem eq_unknown {truth : Truth} (open_ : truth ≠ yes) (held : truth ≠ no) : truth = unknown := by
  cases truth <;> simp_all

end Store.Truth

section

variable {database : Database} {scope : Scope} {clause : Clause} {clauses : List Clause}

/-! Clauses one by one. -/

def Incomparable (scope : Scope) (clause : Clause) : Prop :=
  ∃ column value cell, equality? clause = some (column, value) ∧ scope.get column = .ok cell ∧
    cell.isNull = false ∧ cell.compare? value = none

def Store.Clause.Evaluates (database : Database) (scope : Scope) (clause : Clause) : Prop :=
  ∃ truth, clause.eval database scope = .ok truth

theorem truthOn_ok (evaluates : clause.Evaluates database scope) :
    clause.eval database scope = .ok (truthOn database scope clause) := by
  obtain ⟨truth, evaluated⟩ := evaluates
  rw [truthOn_eq evaluated, evaluated]

/-- The truth that counts for a clause among merged ones: that of an equality is what a test of membership
makes of its literal. -/
def countedOn (database : Database) (scope : Scope) (clause : Clause) : Truth :=
  match equality? clause with
  | some (column, value) => (valueAt scope column).hits value
  | none => truthOn database scope clause

theorem equality_eval {column : Column} {value cell : Cell}
    (equal : equality? clause = some (column, value)) (found : scope.get column = .ok cell) :
    clause.eval database scope = .ok (cell.meets .eq value) := by
  rw [equality_shape equal]
  exact comparison_eval .eq value found

theorem equality_reads {column : Column} {value : Cell}
    (equal : equality? clause = some (column, value)) (evaluates : clause.Evaluates database scope) :
    ∃ cell, scope.get column = .ok cell := by
  obtain ⟨truth, evaluated⟩ := evaluates
  rw [equality_shape equal] at evaluated
  obtain ⟨cell, found, _⟩ := bind_ok evaluated
  exact ⟨cell, found⟩

theorem Incomparable.eval (incomparable : Incomparable scope clause) :
    clause.eval database scope = .ok .unknown := by
  obtain ⟨column, value, cell, equal, found, _, apart⟩ := incomparable
  rw [equality_eval equal found, Cell.meets, apart]

theorem Incomparable.counted (incomparable : Incomparable scope clause) :
    countedOn database scope clause = .no := by
  obtain ⟨column, value, cell, equal, found, present, apart⟩ := incomparable
  simp [countedOn, equal, valueAt_eq found, Cell.hits, Cell.agrees, present, apart, Truth.ofBool]

theorem counted_of_comparable (evaluates : clause.Evaluates database scope)
    (comparable : ¬Incomparable scope clause) :
    countedOn database scope clause = truthOn database scope clause := by
  cases equal : equality? clause with
  | none => simp [countedOn, equal]
  | some entry =>
      obtain ⟨column, value⟩ := entry
      obtain ⟨cell, found⟩ := equality_reads equal evaluates
      have suits : Suits cell value := by
        by_cases empty : cell.isNull = true
        · left
          cases cell <;> first | rfl | cases empty
        · right
          apply Option.isSome_iff_ne_none.mpr
          intro apart
          exact comparable ⟨column, value, cell, equal, found, by simpa using empty, apart⟩
      rw [truthOn_eq (equality_eval equal found)]
      simp [countedOn, equal, valueAt_eq found, suits.hits]

/-! The disjunction. -/

/-- A row that a disjunction does not decide and that the merged one takes for none of its own: an equality is
incomparable on it, and every other clause fails or is another such equality. -/
structure Missed (database : Database) (scope : Scope) (clauses : List Clause) : Prop where
  some : ∃ clause ∈ clauses, Incomparable scope clause
  others : ∀ clause ∈ clauses,
    Incomparable scope clause ∨ clause.eval database scope = .ok .no

theorem Missed.evaluates (missed : Missed database scope clauses) :
    ∀ clause ∈ clauses, clause.Evaluates database scope := by
  intro clause member
  cases missed.others clause member with
  | inl incomparable => exact ⟨_, incomparable.eval⟩
  | inr fails => exact ⟨_, fails⟩

theorem Missed.counted (missed : Missed database scope clauses) :
    Truth.any (clauses.map (countedOn database scope)) = .no := by
  simp only [Truth.any_eq_no, List.forall_mem_map]
  intro clause member
  by_cases incomparable : Incomparable scope clause
  · exact incomparable.counted
  · have fails := (missed.others clause member).resolve_left incomparable
    rw [counted_of_comparable ⟨_, fails⟩ incomparable, truthOn_eq fails]

theorem Missed.undecided (missed : Missed database scope clauses) :
    Truth.any (clauses.map (truthOn database scope)) = .unknown := by
  obtain ⟨clause, member, incomparable⟩ := missed.some
  apply Truth.eq_unknown
  · intro holds
    obtain ⟨other, inside, same⟩ := List.mem_map.mp ((Truth.any_eq_yes _).mp holds)
    cases missed.others other inside with
    | inl apart =>
        rw [truthOn_eq apart.eval] at same
        cases same
    | inr fails =>
        rw [truthOn_eq fails] at same
        cases same
  · intro fails
    have one := (Truth.any_eq_no _).mp fails _ (List.mem_map_of_mem member)
    rw [truthOn_eq incomparable.eval] at one
    cases one

theorem counted_any (evaluates : ∀ clause ∈ clauses, clause.Evaluates database scope)
    (met : ¬Missed database scope clauses) :
    Truth.any (clauses.map (countedOn database scope)) =
      Truth.any (clauses.map (truthOn database scope)) := by
  have same {clause : Clause} (member : clause ∈ clauses) :
      Incomparable scope clause ∨
        countedOn database scope clause = truthOn database scope clause := by
    by_cases incomparable : Incomparable scope clause
    · exact .inl incomparable
    · exact .inr (counted_of_comparable (evaluates clause member) incomparable)
  apply Truth.eq_of_iff
  · simp only [Truth.any_eq_yes, List.mem_map]
    apply exists_congr
    intro clause
    apply and_congr_right
    intro member
    cases same member with
    | inl incomparable => simp [incomparable.counted, truthOn_eq incomparable.eval]
    | inr equal => rw [equal]
  · simp only [Truth.any_eq_no, List.forall_mem_map]
    constructor
    · intro counted clause member
      by_cases incomparable : Incomparable scope clause
      · -- with this equality, all that counts for no makes the row a missed one
        exfalso
        apply met
        refine ⟨⟨clause, member, incomparable⟩, fun other inside => ?_⟩
        refine (same inside).imp_right fun equal => ?_
        rw [truthOn_ok (evaluates other inside), ← equal, counted other inside]
      · rw [← (same member).resolve_left incomparable]
        exact counted clause member
    · intro plain clause member
      cases same member with
      | inl incomparable => exact incomparable.counted
      | inr equal => rw [equal, plain clause member]

theorem membership_counted (evaluates : ∀ clause ∈ clauses, clause.Evaluates database scope)
    {column : Column} (member : column ∈ (clauses.filterMap equality?).map (·.1)) :
    (membership clauses column).eval database scope =
      .ok (Truth.any ((literals clauses column).map (valueAt scope column).hits)) := by
  obtain ⟨⟨_, value⟩, inside, rfl⟩ := List.mem_map.mp member
  obtain ⟨clause, given, equal⟩ := mem_equalities.mp inside
  obtain ⟨cell, found⟩ := equality_reads equal (evaluates clause given)
  rw [valueAt_eq found]
  exact oneOf_eval _ found

theorem anyClause_counted (evaluates : ∀ clause ∈ clauses, clause.Evaluates database scope) :
    (anyClause clauses).eval database scope =
      .ok (Truth.any (clauses.map (countedOn database scope))) := by
  have tested {column : Column} (among : column ∈ (clauses.filterMap equality?).map (·.1)) :
      countedOn database scope (membership clauses column) =
        Truth.any ((literals clauses column).map (valueAt scope column).hits) :=
    truthOn_eq (membership_counted evaluates among)
  rw [← merged_any (countedOn database scope) (fun column => (valueAt scope column).hits)
    (fun clause _ column value equal => by simp [countedOn, equal]) (fun _ among => tested among)]
  apply Clause.anyOf_eval
  intro clause member
  rcases mem_mergeEqualities member with ⟨given, other⟩ | ⟨column, among, rfl⟩
  · simp [countedOn, other, truthOn_ok (evaluates clause given)]
  · rw [tested among]
    exact membership_counted evaluates among

theorem any_truth (evaluates : ∀ clause ∈ clauses, clause.Evaluates database scope) :
    Clause.eval database (.any clauses) scope =
      .ok (Truth.any (clauses.map (truthOn database scope))) :=
  Clause.evalAny_eq clauses _ fun clause member => truthOn_ok (evaluates clause member)

/-! A disjunction that holds may not have come to all of its clauses. -/

theorem evalAny_all {truth : Truth} (run : Clause.evalAny database clauses scope = .ok truth)
    (other : truth ≠ .yes) : ∀ clause ∈ clauses, clause.Evaluates database scope := by
  induction clauses generalizing truth with
  | nil => exact nofun
  | cons clause rest ih =>
      obtain ⟨first, evaluated, ⟨_, rfl⟩ | ⟨others, later, rfl⟩⟩ := evalAny_junction.cons run
      · exact absurd rfl other
      · rw [ne_eq, Truth.or_eq_yes, not_or] at other
        exact List.forall_mem_cons.mpr ⟨⟨first, evaluated⟩, ih later other.2⟩

theorem evalAny_found (run : Clause.evalAny database clauses scope = .ok .yes) :
    ∃ clause ∈ clauses, clause.eval database scope = .ok .yes := by
  induction clauses with
  | nil => cases run
  | cons clause rest ih =>
      obtain ⟨first, evaluated, ⟨rfl, _⟩ | ⟨others, later, same⟩⟩ := evalAny_junction.cons run
      · exact ⟨clause, List.mem_cons_self, evaluated⟩
      · cases (Truth.or_eq_yes first others).mp same.symm with
        | inl holds => exact ⟨clause, List.mem_cons_self, holds ▸ evaluated⟩
        | inr holds =>
            obtain ⟨found, member, evaluated⟩ := ih (holds ▸ later)
            exact ⟨found, List.mem_cons_of_mem clause member, evaluated⟩

theorem evalAny_yes {truth : Truth} (run : Clause.evalAny database clauses scope = .ok truth)
    (member : clause ∈ clauses) (holds : clause.eval database scope = .ok .yes) : truth = .yes := by
  by_contra other
  have evaluates := evalAny_all run other
  have same := (Clause.evalAny_eq clauses _ fun clause member =>
    truthOn_ok (evaluates clause member)).symm.trans run
  cases same
  apply other
  exact (Truth.any_eq_yes _).mpr (List.mem_map.mpr ⟨clause, member, truthOn_eq holds⟩)

theorem anyOf_evalAny {truth : Truth} (run : (Clause.anyOf clauses).eval database scope = .ok truth) :
    Clause.evalAny database clauses scope = .ok truth := by
  match clauses, run with
  | [], run => exact run
  | [clause], run =>
      rw [Clause.evalAny, show clause.eval database scope = .ok truth from run]
      cases truth <;> rfl
  | _ :: _ :: _, run => exact run

theorem anyClause_yes {truth : Truth} (run : (anyClause clauses).eval database scope = .ok truth)
    (member : clause ∈ clauses) (holds : clause.eval database scope = .ok .yes) : truth = .yes := by
  cases equal : equality? clause with
  | none =>
      apply evalAny_yes (anyOf_evalAny run) _ holds
      exact List.mem_append_left _ (List.mem_filter.mpr ⟨member, by simp [equal]⟩)
  | some entry =>
      obtain ⟨column, value⟩ := entry
      obtain ⟨cell, found⟩ := equality_reads equal ⟨_, holds⟩
      have meets : cell.meets .eq value = .yes := by
        simpa [equality_eval equal found] using holds
      have hit : cell.hits value = .yes := by
        have agrees := (agrees_iff_meets cell value).mpr meets
        have present : cell.isNull = false := by
          cases cell <;> first | rfl | cases meets
        simp [Cell.hits, present, agrees, Truth.ofBool]
      have among := mem_equalities.mpr ⟨clause, member, equal⟩
      have listed : membership clauses column ∈ mergeEqualities clauses := by
        apply List.mem_append_right
        exact List.mem_map_of_mem ((mem_inserted _ _).mpr (List.mem_map_of_mem (f := Prod.fst) among))
      apply evalAny_yes (anyOf_evalAny run) listed
      refine (oneOf_eval _ found).trans (congrArg _ ((Truth.any_eq_yes _).mpr ?_))
      exact List.mem_map.mpr ⟨value, mem_literals.mpr among, hit⟩

theorem anyClause_truth {merged plain : Truth}
    (first : (anyClause clauses).eval database scope = .ok merged)
    (second : Clause.eval database (.any clauses) scope = .ok plain) :
    (Missed database scope clauses → merged = .no ∧ plain = .unknown) ∧
      (¬Missed database scope clauses → merged = plain) := by
  have settled (evaluates : ∀ clause ∈ clauses, clause.Evaluates database scope) :
      merged = Truth.any (clauses.map (countedOn database scope)) ∧
        plain = Truth.any (clauses.map (truthOn database scope)) := by
    constructor
    · exact Except.ok.inj (first.symm.trans (anyClause_counted evaluates))
    · exact Except.ok.inj (second.symm.trans (any_truth evaluates))
  constructor
  · intro missed
    obtain ⟨rfl, rfl⟩ := settled missed.evaluates
    exact ⟨missed.counted, missed.undecided⟩
  · intro met
    by_cases holds : plain = .yes
    · subst holds
      obtain ⟨clause, member, evaluated⟩ := evalAny_found second
      exact anyClause_yes first member evaluated
    · have evaluates := evalAny_all second holds
      obtain ⟨rfl, rfl⟩ := settled evaluates
      exact counted_any evaluates met

/-! A disjunction in terms of a conjunction, which nothing merges. -/

theorem evalAll_not (clauses : List Clause) :
    Clause.evalAll database (clauses.map .not) scope =
      (Clause.evalAny database clauses scope).map Truth.not := by
  induction clauses with
  | nil => rfl
  | cons clause rest ih =>
      rw [List.map_cons, Clause.evalAll, Clause.evalAny, Clause.eval, ih]
      cases clause.eval database scope with
      | error error => rfl
      | ok truth =>
          cases truth <;> cases Clause.evalAny database rest scope with
          | error error => rfl
          | ok later => cases later <;> rfl

theorem all_not_eval (clauses : List Clause) :
    Clause.eval database (.all (clauses.map .not)) scope =
      (Clause.eval database (.any clauses) scope).map Truth.not :=
  evalAll_not clauses

theorem not_eval (clause : Clause) (scope : Scope) :
    Clause.eval database (.not clause) scope = (clause.eval database scope).map Truth.not := by
  rw [Clause.eval]
  rfl

theorem not_all_not_eval (clauses : List Clause) (scope : Scope) :
    Clause.eval database (.not (.all (clauses.map .not))) scope =
      Clause.eval database (.any clauses) scope := by
  rw [not_eval, all_not_eval]
  cases Clause.eval database (.any clauses) scope with
  | error error => rfl
  | ok truth => cases truth <;> rfl

end

/-! Predicates. -/

section

variable {schema : Schema} {type : EntityType} {table : String} {next last : Nat}

theorem clausesOf_not {predicates : List Predicate} {clauses : List Clause}
    (compiled : clausesOf schema type table next predicates = .ok (clauses, last)) :
    clausesOf schema type table next (predicates.map .not) = .ok (clauses.map .not, last) := by
  induction predicates generalizing next clauses with
  | nil =>
      cases compiled
      rfl
  | cons predicate rest ih =>
      obtain ⟨clause, between, others, one, later, rfl⟩ := clausesOf_cons_ok compiled
      have negated : clauseOf schema type table next (.not predicate) =
          .ok (.not clause, between) := by
        rw [clauseOf, one]
        rfl
      exact clausesOf_cons negated (ih later)

theorem equality_anyClause (clauses : List Clause) : equality? (anyClause clauses) = none := by
  unfold anyClause Clause.anyOf
  split
  · rename_i clause alone
    rcases mem_mergeEqualities (alone ▸ List.mem_singleton_self clause) with ⟨_, other⟩ | ⟨_, _, rfl⟩
    · exact other
    · rfl
  · rfl

theorem any_apart {predicates : List Predicate} (type : EntityType) (table : String) (next : Nat)
    (clause : Clause) (last : Nat)
    (compiled : clauseOf schema type table next (.any predicates) = .ok (clause, last)) :
    equality? clause = none := by
  rw [clauseOf] at compiled
  obtain ⟨⟨clauses, upTo⟩, _, same⟩ := map_ok compiled
  cases same
  exact equality_anyClause clauses

/-- How the clause of a disjunction goes with the clauses of its parts: it has the truth of their disjunction on
every row but those that it misses, where it fails and the disjunction is unknown. Its negation is related in the
same way to the conjunction of their negations. -/
structure Coalesced (clauses : List Clause) : Prop where
  evaluates : ∀ database scope, (∀ clause ∈ clauses, clause.Evaluates database scope) →
    (anyClause clauses).Evaluates database scope ∧ (Clause.any clauses).Evaluates database scope
  truth : ∀ database scope merged plain, (anyClause clauses).eval database scope = .ok merged →
    Clause.eval database (.any clauses) scope = .ok plain →
      (Missed database scope clauses → merged = .no ∧ plain = .unknown) ∧
        (¬Missed database scope clauses → merged = plain)
  negation : ∀ database scope merged plain,
    Clause.eval database (.not (anyClause clauses)) scope = .ok merged →
      Clause.eval database (.all (clauses.map .not)) scope = .ok plain →
        (Missed database scope clauses → merged = .yes ∧ plain = .unknown) ∧
          (¬Missed database scope clauses → merged = plain)

theorem coalesced (clauses : List Clause) : Coalesced clauses where
  evaluates _ _ each := ⟨⟨_, anyClause_counted each⟩, ⟨_, any_truth each⟩⟩
  truth _ _ _ _ := anyClause_truth
  negation database scope merged plain first second := by
    rw [not_eval] at first
    rw [all_not_eval] at second
    obtain ⟨left, one, rfl⟩ := map_ok first
    obtain ⟨right, other, rfl⟩ := map_ok second
    obtain ⟨missed, met⟩ := anyClause_truth one other
    constructor
    · intro gone
      obtain ⟨rfl, rfl⟩ := missed gone
      exact ⟨rfl, rfl⟩
    · intro kept
      rw [met kept]

/-- In every place of a predicate, the clause that a disjunction compiles to has the truth of the disjunction of
its parts, compiled one by one, unless the row is missed. So has the whole predicate, compared with the one that
negates all of the negated parts, which nothing merges: without missed rows they have the same truth, and where
the disjunction stands under no negation they select the same rows. -/
theorem disjunction_coalesced {position : Position} {predicates : List Predicate} {whole : Clause}
    (compiled : clauseOf schema type table next (position.fill (.any predicates)) =
      .ok (whole, last)) :
    ∃ (spot : Spot) (surroundings : Surroundings) (clauses : List Clause) (apart : Clause),
      clausesOf schema spot.type spot.table spot.next predicates = .ok (clauses, spot.last) ∧
      Coalesced clauses ∧
      whole = surroundings.fill (anyClause clauses) ∧
      clauseOf schema type table next (position.fill (.not (.all (predicates.map .not)))) =
        .ok (apart, last) ∧
      (∀ database scope, apart.eval database scope =
        (surroundings.fill (.any clauses)).eval database scope) ∧
      ∀ database scope merged plain, whole.eval database scope = .ok merged →
        apart.eval database scope = .ok plain →
          ((∀ row ∈ surroundings.reach database scope, ¬Missed database row clauses) →
            merged = plain) ∧
          (position.upright = true → merged = plain ∨ merged = .no ∧ plain = .unknown) := by
  obtain ⟨spot, surroundings, clause, ⟨taken, _⟩, rfl, upright, framed⟩ :=
    position_framed any_apart compiled
  rw [clauseOf] at taken
  obtain ⟨⟨clauses, upTo⟩, parts, same⟩ := map_ok taken
  cases same
  have negated : clauseOf schema spot.type spot.table spot.next (.not (.all (predicates.map .not))) =
      .ok (.not (.all (clauses.map .not)), spot.last) := by
    rw [clauseOf, clauseOf, clausesOf_not parts]
    rfl
  have alike (database : Database) (scope : Scope) :
      (surroundings.fill (.not (.all (clauses.map .not)))).eval database scope =
        (surroundings.fill (.any clauses)).eval database scope :=
    fill_congr (not_all_not_eval clauses) surroundings
  refine ⟨spot, surroundings, clauses, _, parts, coalesced clauses, rfl, framed _ _ ⟨negated, rfl⟩,
    alike, fun database scope merged plain first second => ?_⟩
  rw [alike] at second
  constructor
  · intro met
    refine fill_alike survives_eq (.inr fun _ _ => congrArg Truth.not) ?_ merged plain first second
    intro row member left right one other
    exact (anyClause_truth one other).2 (met row member)
  · intro stands
    refine fill_alike survives_hardened (.inl (upright stands)) ?_ merged plain first second
    intro row member left right one other
    by_cases missed : Missed database row clauses
    · exact .inr ((anyClause_truth one other).1 missed)
    · exact .inl ((anyClause_truth one other).2 missed)

end

/-! Somebody aged three is asked for who is of neither five nor no age. -/

namespace People

def person : EntityType :=
  { name := "person"
    table := none
    identity := ⟨"id", .string, false⟩
    attributes := [⟨"age", .integer, false⟩]
    relationships := [⟨"friends", .toMany, "person", true, .joinTable "friend" "one" "other"⟩]
    extraKey := [] }

def schema : Schema := ⟨[person]⟩

def ages : List Predicate :=
  [.compare "age" .eq (.value (.integer 5)), .compare "age" .eq (.value .null)]

def serving : Connection :=
  ⟨⟨[⟨"person", [⟨"id", .text⟩, ⟨"age", .integer⟩], [], [[.text "ann", .integer 3]], 1⟩]⟩, none, []⟩

def selected (predicate : Predicate) : Except MappingError (List String) :=
  (execute (Mapping.query schema person { predicate }) serving).1.map (·.map (·.identifier.id))

def position : Position := .related "friends" (.not .here)

end People

/-- The negation of a disjunction selects a person whom no conjunction of negations selects. -/
theorem negated_equalities_select_more :
    People.selected (.not (.any People.ages)) = .ok ["ann"] ∧
      People.selected (.all (People.ages.map .not)) = .ok [] := by
  decide +kernel

theorem friends_disjunction_coalesced :
    ∃ whole, clauseOf People.schema People.person "person" 1
        (People.position.fill (.any People.ages)) = .ok (whole, 3) ∧
      ∃ (surroundings : Surroundings) (clauses : List Clause),
        Coalesced clauses ∧ whole = surroundings.fill (anyClause clauses) := by
  have compiled : ∃ whole, clauseOf People.schema People.person "person" 1
      (People.position.fill (.any People.ages)) = .ok (whole, 3) := ⟨_, rfl⟩
  obtain ⟨whole, compiled⟩ := compiled
  obtain ⟨_, surroundings, clauses, _, _, coalesced, same, _⟩ := disjunction_coalesced compiled
  exact ⟨whole, compiled, surroundings, clauses, coalesced, same⟩

end ResourceServer
