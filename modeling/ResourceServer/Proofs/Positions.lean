import ResourceServer.Proofs.Merging
import ResourceServer.Proofs.Results

/-! Places inside clauses and predicates, and what a change in one place does to the truth of the whole. -/

namespace ResourceServer

open ResourceServer.Store ResourceServer.Mapping
open ResourceServer.Filter (Predicate)

/-- A clause with one place left open. -/
inductive Surroundings
  | here
  | all (before : List Clause) (inner : Surroundings) (after : List Clause)
  | any (before : List Clause) (inner : Surroundings) (after : List Clause)
  | not (inner : Surroundings)
  | existing (table rename : String) (joins : List Join) (inner : Surroundings)

namespace Surroundings

def fill (clause : Clause) : Surroundings → Clause
  | here => clause
  | all before inner after => .all (before ++ inner.fill clause :: after)
  | any before inner after => .any (before ++ inner.fill clause :: after)
  | not inner => .not (inner.fill clause)
  | existing table rename joins inner => .existing table rename joins (inner.fill clause)

/-- The rows on which the open place can come to be evaluated: those of each subquery around it, in front of
the row of the whole. -/
def reach (database : Database) : Surroundings → Scope → List Scope
  | here, scope => [scope]
  | all _ inner _, scope => inner.reach database scope
  | any _ inner _, scope => inner.reach database scope
  | not inner, scope => inner.reach database scope
  | existing table rename joins inner, scope =>
    match database.scan table rename joins with
    | .ok rows => rows.flatMap fun row => inner.reach database (row ++ scope)
    | .error _ => []

def upright : Surroundings → Bool
  | here => true
  | all _ inner _ => inner.upright
  | any _ inner _ => inner.upright
  | not _ => false
  | existing _ _ _ inner => inner.upright

theorem equality_fill {clause : Clause} (other : equality? clause = none)
    (surroundings : Surroundings) : equality? (surroundings.fill clause) = none := by
  cases surroundings with
  | here => exact other
  | all before inner after => rfl
  | any before inner after => rfl
  | not inner => rfl
  | existing table rename joins inner => rfl

end Surroundings

/-! One clause is put in the place of another. -/

/-- A relation of truths that conjunctions and disjunctions keep, and that tells no row found from one that is
not. -/
structure Survives (alike : Truth → Truth → Prop) : Prop where
  refl : ∀ truth, alike truth truth
  and_left : ∀ (truth : Truth) {one other}, alike one other → alike (truth.and one) (truth.and other)
  and_right : ∀ (truth : Truth) {one other}, alike one other → alike (one.and truth) (other.and truth)
  or_left : ∀ (truth : Truth) {one other}, alike one other → alike (truth.or one) (truth.or other)
  or_right : ∀ (truth : Truth) {one other}, alike one other → alike (one.or truth) (other.or truth)
  found : ∀ {one other}, alike one other → (one = .yes ↔ other = .yes)

theorem survives_eq : Survives Eq where
  refl _ := rfl
  and_left truth _ _ same := congrArg truth.and same
  and_right truth _ _ same := congrArg (·.and truth) same
  or_left truth _ _ same := congrArg truth.or same
  or_right truth _ _ same := congrArg (·.or truth) same
  found same := by rw [same]

def Hardened (one other : Truth) : Prop :=
  one = other ∨ one = .no ∧ other = .unknown

instance (one other : Truth) : Decidable (Hardened one other) :=
  inferInstanceAs (Decidable (_ ∨ _))

theorem survives_hardened : Survives Hardened where
  refl truth := .inl rfl
  and_left truth one other := by cases truth <;> cases one <;> cases other <;> decide
  and_right truth one other := by cases truth <;> cases one <;> cases other <;> decide
  or_left truth one other := by cases truth <;> cases one <;> cases other <;> decide
  or_right truth one other := by cases truth <;> cases one <;> cases other <;> decide
  found {one other} := by cases one <;> cases other <;> decide

section

variable {database : Database} {scope : Scope}

def AlikeOn (alike : Truth → Truth → Prop) (database : Database) (scope : Scope)
    (one other : Clause) : Prop :=
  ∀ left right, one.eval database scope = .ok left → other.eval database scope = .ok right →
    alike left right

/-- A way of going through clauses, up to the first whose truth decides. -/
structure Junction (database : Database) (scope : Scope) (decides : Truth)
    (join : Truth → Truth → Truth) (run : List Clause → Except StoreError Truth) : Prop where
  decided : ∀ truth, join decides truth = decides
  cons : ∀ {clause rest truth}, run (clause :: rest) = .ok truth →
    ∃ first, clause.eval database scope = .ok first ∧
      (first = decides ∧ truth = decides ∨
        ∃ others, run rest = .ok others ∧ truth = join first others)

theorem evalAll_junction :
    Junction database scope .no Truth.and fun clauses => Clause.evalAll database clauses scope where
  decided := Truth.no_and
  cons {clause rest truth} run := by
    rw [Clause.evalAll] at run
    obtain ⟨first, one, run⟩ := bind_ok run
    refine ⟨first, one, ?_⟩
    cases first with
    | no =>
        cases run
        exact .inl ⟨rfl, rfl⟩
    | unknown =>
        obtain ⟨others, later, same⟩ := bind_ok run
        cases same
        exact .inr ⟨others, later, rfl⟩
    | yes =>
        obtain ⟨others, later, same⟩ := bind_ok run
        cases same
        exact .inr ⟨others, later, rfl⟩

theorem evalAny_junction :
    Junction database scope .yes Truth.or fun clauses => Clause.evalAny database clauses scope where
  decided := Truth.yes_or
  cons {clause rest truth} run := by
    rw [Clause.evalAny] at run
    obtain ⟨first, one, run⟩ := bind_ok run
    refine ⟨first, one, ?_⟩
    cases first with
    | yes =>
        cases run
        exact .inl ⟨rfl, rfl⟩
    | unknown =>
        obtain ⟨others, later, same⟩ := bind_ok run
        cases same
        exact .inr ⟨others, later, rfl⟩
    | no =>
        obtain ⟨others, later, same⟩ := bind_ok run
        cases same
        exact .inr ⟨others, later, rfl⟩

section

variable {alike : Truth → Truth → Prop} (survives : Survives alike) {one other : Clause}
include survives

theorem junction_alike {decides : Truth} {join : Truth → Truth → Truth}
    {run : List Clause → Except StoreError Truth}
    (junction : Junction database scope decides join run)
    (join_left : ∀ truth {one other}, alike one other → alike (join truth one) (join truth other))
    (join_right : ∀ truth {one other}, alike one other → alike (join one truth) (join other truth))
    (within : AlikeOn alike database scope one other) (before after : List Clause)
    {left right : Truth} (first : run (before ++ one :: after) = .ok left)
    (second : run (before ++ other :: after) = .ok right) : alike left right := by
  induction before generalizing left right with
  | nil =>
      obtain ⟨changed, given, first⟩ := junction.cons first
      obtain ⟨changed', given', second⟩ := junction.cons second
      have near := within changed changed' given given'
      rcases first with ⟨rfl, rfl⟩ | ⟨others, later, rfl⟩ <;>
        rcases second with ⟨rfl, rfl⟩ | ⟨others', later', rfl⟩
      · exact survives.refl _
      -- a junction that stops at its first clause is one with anything behind that clause
      · simpa only [junction.decided] using join_right others' near
      · simpa only [junction.decided] using join_right others near
      · cases later.symm.trans later'
        exact join_right others near
  | cons clause rest ih =>
      obtain ⟨truth, given, first⟩ := junction.cons first
      obtain ⟨truth', given', second⟩ := junction.cons second
      cases given.symm.trans given'
      rcases first with ⟨rfl, rfl⟩ | ⟨others, later, rfl⟩ <;>
        rcases second with ⟨same, rfl⟩ | ⟨others', later', rfl⟩
      · exact survives.refl _
      · simpa only [junction.decided] using survives.refl _
      · simpa only [same, junction.decided] using survives.refl _
      · exact join_left truth (ih later later')

omit survives in
theorem anyM_agree {α ε : Type} {test test' : α → Except ε Bool} {items : List α}
    (each : ∀ item ∈ items, ∀ found found', test item = .ok found → test' item = .ok found' →
      found = found') {found found' : Bool} (first : items.anyM test = .ok found)
    (second : items.anyM test' = .ok found') : found = found' := by
  induction items with
  | nil =>
      cases first
      cases second
      rfl
  | cons item rest ih =>
      rw [List.anyM] at first second
      obtain ⟨passed, given, first⟩ := bind_ok first
      obtain ⟨passed', given', second⟩ := bind_ok second
      cases each item List.mem_cons_self passed passed' given given'
      cases passed with
      | true =>
          cases first
          cases second
          rfl
      | false => exact ih (fun item member => each item (List.mem_cons_of_mem _ member)) first second

theorem existing_alike {table rename : String} {joins : List Join}
    (within : ∀ rows, database.scan table rename joins = .ok rows → ∀ row ∈ rows,
      AlikeOn alike database (row ++ scope) one other) :
    AlikeOn alike database scope (.existing table rename joins one)
      (.existing table rename joins other) := by
  intro left right first second
  rw [Clause.eval] at first second
  obtain ⟨rows, scanned, first⟩ := bind_ok first
  obtain ⟨rows', scanned', second⟩ := bind_ok second
  cases scanned.symm.trans scanned'
  obtain ⟨found, first, same⟩ := bind_ok first
  obtain ⟨found', second, same'⟩ := bind_ok second
  have agreed : found = found' := by
    refine anyM_agree (fun row member passed passed' given given' => ?_) first second
    obtain ⟨truth, evaluated, kept⟩ := bind_ok given
    obtain ⟨truth', evaluated', kept'⟩ := bind_ok given'
    cases kept
    cases kept'
    exact decide_eq_decide.mpr
      (survives.found (within rows scanned row member truth truth' evaluated evaluated'))
  cases same
  cases same'
  rw [agreed]
  exact survives.refl _

/-- What relates two clauses on every row that their place can be evaluated on relates the clauses around them,
if negations keep it or there are none. -/
theorem fill_alike {surroundings : Surroundings}
    (turned : surroundings.upright = true ∨ ∀ left right, alike left right → alike left.not right.not)
    (within : ∀ row ∈ surroundings.reach database scope, AlikeOn alike database row one other) :
    AlikeOn alike database scope (surroundings.fill one) (surroundings.fill other) := by
  induction surroundings generalizing scope with
  | here => exact within scope (List.mem_singleton.mpr rfl)
  | all before inner after ih =>
      intro left right first second
      rw [Surroundings.fill, Clause.eval] at first second
      exact junction_alike survives evalAll_junction survives.and_left survives.and_right
        (ih turned within) before after first second
  | any before inner after ih =>
      intro left right first second
      rw [Surroundings.fill, Clause.eval] at first second
      exact junction_alike survives evalAny_junction survives.or_left survives.or_right
        (ih turned within) before after first second
  | not inner ih =>
      have keeps := turned.resolve_left Bool.false_ne_true
      intro left right first second
      rw [Surroundings.fill, Clause.eval] at first second
      obtain ⟨truth, inside, same⟩ := bind_ok first
      obtain ⟨truth', inside', same'⟩ := bind_ok second
      cases same
      cases same'
      exact keeps truth truth' (ih (.inr keeps) within truth truth' inside inside')
  | existing table rename joins inner ih =>
      apply existing_alike survives
      intro rows scanned row member
      apply ih turned
      intro reached inside
      apply within
      rw [Surroundings.reach, scanned]
      exact List.mem_flatMap.mpr ⟨row, member, inside⟩

end

theorem junctions_congr {one other : Clause}
    (same : one.eval database scope = other.eval database scope) (before after : List Clause) :
    Clause.evalAll database (before ++ one :: after) scope =
        Clause.evalAll database (before ++ other :: after) scope ∧
      Clause.evalAny database (before ++ one :: after) scope =
        Clause.evalAny database (before ++ other :: after) scope := by
  induction before with
  | nil => simp only [List.nil_append, Clause.evalAll, Clause.evalAny, same, and_self]
  | cons clause rest ih =>
      simp only [List.cons_append, Clause.evalAll, Clause.evalAny, ih.1, ih.2, and_self]

theorem fill_congr {one other : Clause}
    (same : ∀ scope, one.eval database scope = other.eval database scope)
    (surroundings : Surroundings) :
    (surroundings.fill one).eval database scope = (surroundings.fill other).eval database scope := by
  induction surroundings generalizing scope with
  | here => exact same scope
  | all before inner after ih =>
      rw [Surroundings.fill, Surroundings.fill, Clause.eval, Clause.eval]
      exact (junctions_congr ih before after).1
  | any before inner after ih =>
      rw [Surroundings.fill, Surroundings.fill, Clause.eval, Clause.eval]
      exact (junctions_congr ih before after).2
  | not inner ih => rw [Surroundings.fill, Surroundings.fill, Clause.eval, Clause.eval, ih]
  | existing table rename joins inner ih =>
      simp only [Surroundings.fill, Clause.eval, ih]

end

/-! The clause of a predicate is built around the clauses of its parts. -/

/-- A predicate with one place left open. -/
inductive Position
  | here
  | all (before : List Predicate) (inner : Position) (after : List Predicate)
  | any (before : List Predicate) (inner : Position) (after : List Predicate)
  | not (inner : Position)
  | related (name : String) (inner : Position)

namespace Position

def fill (predicate : Predicate) : Position → Predicate
  | here => predicate
  | all before inner after => .all (before ++ inner.fill predicate :: after)
  | any before inner after => .any (before ++ inner.fill predicate :: after)
  | not inner => .not (inner.fill predicate)
  | related name inner => .related name (inner.fill predicate)

def upright : Position → Bool
  | here => true
  | all _ inner _ => inner.upright
  | any _ inner _ => inner.upright
  | not _ => false
  | related _ inner => inner.upright

end Position

section

variable {schema : Schema} {type : EntityType} {table : String} {next last : Nat}

/-- Where a part of a predicate is compiled: the type and the name of the table whose rows it is about, and
the numbers of generated names before and after it. -/
structure Spot where
  type : EntityType
  table : String
  next : Nat
  last : Nat

/-- At a spot, predicates have clauses that can stand in a place of their own: none is an equality, which a
disjunction around it would merge. -/
def Spot.Takes (schema : Schema) (spot : Spot) (predicate : Predicate) (clause : Clause) : Prop :=
  clauseOf schema spot.type spot.table spot.next predicate = .ok (clause, spot.last) ∧
    equality? clause = none

def Framed (schema : Schema) (type : EntityType) (table : String) (next last : Nat)
    (position : Position) (spot : Spot) (surroundings : Surroundings) : Prop :=
  (position.upright = true → surroundings.upright = true) ∧
    ∀ predicate clause, spot.Takes schema predicate clause →
      clauseOf schema type table next (position.fill predicate) =
        .ok (surroundings.fill clause, last)

theorem clausesOf_cons_ok {predicate : Predicate} {rest : List Predicate} {clauses : List Clause}
    (compiled : clausesOf schema type table next (predicate :: rest) = .ok (clauses, last)) :
    ∃ clause between others, clauseOf schema type table next predicate = .ok (clause, between) ∧
      clausesOf schema type table between rest = .ok (others, last) ∧ clauses = clause :: others := by
  rw [clausesOf] at compiled
  obtain ⟨⟨clause, between⟩, one, compiled⟩ := bind_ok compiled
  obtain ⟨⟨others, upTo⟩, later, same⟩ := bind_ok compiled
  cases same
  exact ⟨clause, between, others, one, later, rfl⟩

theorem clausesOf_cons {predicate : Predicate} {rest : List Predicate} {clause : Clause}
    {others : List Clause} {between : Nat}
    (one : clauseOf schema type table next predicate = .ok (clause, between))
    (later : clausesOf schema type table between rest = .ok (others, last)) :
    clausesOf schema type table next (predicate :: rest) = .ok (clause :: others, last) := by
  rw [clausesOf]
  exact bind_of_ok one (bind_of_ok later rfl)

theorem clausesOf_around {before after : List Predicate} {predicate : Predicate}
    {clauses : List Clause}
    (compiled : clausesOf schema type table next (before ++ predicate :: after) =
      .ok (clauses, last)) :
    ∃ front clause behind start stop, clauses = front ++ clause :: behind ∧
      clauseOf schema type table start predicate = .ok (clause, stop) ∧
      ∀ other clause', clauseOf schema type table start other = .ok (clause', stop) →
        clausesOf schema type table next (before ++ other :: after) =
          .ok (front ++ clause' :: behind, last) := by
  induction before generalizing next clauses with
  | nil =>
      obtain ⟨clause, between, others, one, later, rfl⟩ := clausesOf_cons_ok compiled
      exact ⟨[], clause, others, next, between, rfl, one, fun other clause' given =>
        clausesOf_cons given later⟩
  | cons first rest ih =>
      obtain ⟨head, between, others, one, later, rfl⟩ := clausesOf_cons_ok compiled
      obtain ⟨front, clause, behind, start, stop, rfl, given, again⟩ := ih later
      exact ⟨head :: front, clause, behind, start, stop, rfl, given, fun other clause' given =>
        clausesOf_cons one (again other clause' given)⟩

theorem anyClause_around (front behind : List Clause) :
    ∃ before after, ∀ clause, equality? clause = none →
      anyClause (front ++ clause :: behind) = .anyOf (before ++ clause :: after) := by
  refine ⟨front.filter fun clause => (equality? clause).isNone,
    mergeEqualities (front ++ behind) |>.drop
      (front.filter fun clause => (equality? clause).isNone).length, fun clause other => ?_⟩
  have equalities : (front ++ clause :: behind).filterMap equality? =
      (front ++ behind).filterMap equality? := by
    simp [other]
  rw [anyClause, mergeEqualities, mergeEqualities, equalities]
  simp [other]

theorem anyOf_fill (before after : List Clause) (inner : Surroundings) :
    ∃ outer : Surroundings, outer.upright = inner.upright ∧
      ∀ clause, outer.fill clause = .anyOf (before ++ inner.fill clause :: after) := by
  cases before with
  | nil =>
      cases after with
      | nil => exact ⟨inner, rfl, fun _ => rfl⟩
      | cons second others => exact ⟨.any [] inner (second :: others), rfl, fun _ => rfl⟩
  | cons first rest =>
      refine ⟨.any (first :: rest) inner after, rfl, fun clause => ?_⟩
      cases rest <;> rfl

/-- The clause of a predicate has a place for each of the predicate's. -/
theorem position_framed {position : Position} {predicate : Predicate} {whole : Clause}
    (apart : ∀ type table next clause last,
      clauseOf schema type table next predicate = .ok (clause, last) → equality? clause = none)
    (compiled : clauseOf schema type table next (position.fill predicate) = .ok (whole, last)) :
    ∃ spot surroundings clause, spot.Takes schema predicate clause ∧
      whole = surroundings.fill clause ∧
      Framed schema type table next last position spot surroundings := by
  induction position generalizing type table next last whole with
  | here =>
      exact ⟨⟨type, table, next, last⟩, .here, whole, ⟨compiled, apart _ _ _ _ _ compiled⟩, rfl,
        fun up => up, fun _ _ given => given.1⟩
  | all before inner after ih =>
      rw [Position.fill, clauseOf] at compiled
      obtain ⟨⟨clauses, upTo⟩, all, same⟩ := map_ok compiled
      cases same
      obtain ⟨front, between, behind, start, stop, rfl, one, again⟩ := clausesOf_around all
      obtain ⟨spot, surroundings, clause, taken, rfl, up, framed⟩ := ih one
      refine ⟨spot, .all front surroundings behind, clause, taken, rfl, up,
        fun other clause' given => ?_⟩
      rw [Position.fill, clauseOf, again _ _ (framed other clause' given)]
      rfl
  | any before inner after ih =>
      rw [Position.fill, clauseOf] at compiled
      obtain ⟨⟨clauses, upTo⟩, all, same⟩ := map_ok compiled
      cases same
      obtain ⟨front, between, behind, start, stop, rfl, one, again⟩ := clausesOf_around all
      obtain ⟨spot, surroundings, clause, taken, rfl, up, framed⟩ := ih one
      obtain ⟨first, second, merged⟩ := anyClause_around front behind
      obtain ⟨outer, upright, filled⟩ := anyOf_fill first second surroundings
      have place (clause : Clause) (other : equality? clause = none) :
          anyClause (front ++ surroundings.fill clause :: behind) = outer.fill clause :=
        (merged _ (surroundings.equality_fill other)).trans (filled clause).symm
      refine ⟨spot, outer, clause, taken, place clause taken.2, fun stands => ?_,
        fun other clause' given => ?_⟩
      · rw [upright]
        exact up stands
      · rw [Position.fill, clauseOf, again _ _ (framed other clause' given), ← place clause' given.2]
        rfl
  | not inner ih =>
      rw [Position.fill, clauseOf] at compiled
      obtain ⟨⟨clause, upTo⟩, one, same⟩ := map_ok compiled
      cases same
      obtain ⟨spot, surroundings, clause, taken, rfl, up, framed⟩ := ih one
      refine ⟨spot, .not surroundings, clause, taken, rfl, fun stands => absurd stands nofun,
        fun other clause' given => ?_⟩
      rw [Position.fill, clauseOf, framed other clause' given]
      rfl
  | related name inner ih =>
      rw [Position.fill, clauseOf] at compiled
      obtain ⟨⟨relationship, target⟩, found, compiled⟩ := bind_ok compiled
      obtain ⟨⟨filter, upTo⟩, one, same⟩ := bind_ok compiled
      cases same
      obtain ⟨spot, surroundings, clause, taken, rfl, up, framed⟩ := ih one
      refine ⟨spot, .existing _ _ _ (.all [_] surroundings []), clause, taken, rfl, up,
        fun other clause' given => ?_⟩
      rw [Position.fill, clauseOf]
      exact bind_of_ok found (bind_of_ok (framed other clause' given) rfl)

end

end ResourceServer
