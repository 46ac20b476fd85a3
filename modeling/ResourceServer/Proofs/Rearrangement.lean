import Mathlib.Logic.Relation
import Mathlib.Tactic.Tauto
import ResourceServer.Proofs.Coalescing

/-! Clauses in another arrangement: parts in any order and any number of times, a junction inside of another of its
kind, a part that stands alone, and negations moved inwards. Where nothing fails, the truth stays the same. -/

namespace ResourceServer

open ResourceServer.Store

namespace Store.Truth

theorem not_not (truth : Truth) : truth.not.not = truth := by
  cases truth <;> rfl

theorem not_injective : Function.Injective not :=
  Function.LeftInverse.injective not_not

theorem not_not_map (truths : List Truth) : (truths.map not).map not = truths := by
  rw [List.map_map]
  exact (List.map_congr_left fun truth _ => not_not truth).trans (List.map_id truths)

theorem not_all (truths : List Truth) : (all truths).not = any (truths.map not) := by
  induction truths with
  | nil => rfl
  | cons truth rest ih =>
      rw [List.map_cons, any_cons, ← ih]
      change (truth.and (all rest)).not = _
      cases truth <;> cases all rest <;> rfl

theorem not_any (truths : List Truth) : (any truths).not = all (truths.map not) := by
  rw [← not_not (all (truths.map not)), not_all, not_not_map]

theorem any_inner (before inner after : List Truth) :
    any (before ++ any inner :: after) = any (before ++ inner ++ after) := by
  apply eq_of_iff
  · simp only [any_eq_yes, List.mem_append, List.mem_cons, eq_comm (a := yes), or_assoc]
  · simp only [any_eq_no, List.forall_mem_append, List.forall_mem_cons, and_assoc]

end Store.Truth

inductive Connective
  | all
  | any

namespace Connective

def join : Connective → List Clause → Clause
  | all => .all
  | any => .any

def collapse : Connective → List Clause → Clause
  | all => .allOf
  | any => .anyOf

def dual : Connective → Connective
  | all => any
  | any => all

def sum : Connective → List Truth → Truth
  | all => Truth.all
  | any => Truth.any

theorem not_sum (connective : Connective) (truths : List Truth) :
    (connective.sum truths).not = connective.dual.sum (truths.map Truth.not) := by
  cases connective with
  | all => exact Truth.not_all truths
  | any => exact Truth.not_any truths

theorem sum_all (truths : List Truth) : sum all truths = (Truth.any (truths.map Truth.not)).not := by
  rw [← Truth.not_all, Truth.not_not]
  rfl

theorem sum_congr (connective : Connective) {left right : List Truth}
    (same : ∀ truth, truth ∈ left ↔ truth ∈ right) : connective.sum left = connective.sum right := by
  cases connective with
  | any => exact Truth.any_congr same
  | all =>
      rw [sum_all, sum_all]
      apply congrArg
      apply Truth.any_congr
      simp only [List.mem_map, same, implies_true]

theorem sum_inner (connective : Connective) (before inner after : List Truth) :
    connective.sum (before ++ connective.sum inner :: after) = connective.sum (before ++ inner ++ after) := by
  cases connective with
  | any => exact Truth.any_inner before inner after
  | all =>
      -- the negation of either side is a disjunction
      have negated := Truth.any_inner (before.map Truth.not) (inner.map Truth.not) (after.map Truth.not)
      rw [← Truth.not_all inner, ← List.map_cons, ← List.map_append, ← List.map_append, ← List.map_append,
        ← Truth.not_all, ← Truth.not_all] at negated
      exact Truth.not_injective negated

theorem sum_single (connective : Connective) (truth : Truth) : connective.sum [truth] = truth := by
  cases connective <;> cases truth <;> rfl

end Connective

/-! Rows on which nothing fails. -/

/-- Nothing fails where a clause is evaluated on a row: every condition has a truth there, and every subquery has rows,
on which nothing fails. -/
inductive Store.Clause.Unfailing (database : Database) : Clause → Scope → Prop
  | all {clauses : List Clause} {scope : Scope} (each : ∀ clause ∈ clauses, Unfailing database clause scope) :
      Unfailing database (.all clauses) scope
  | any {clauses : List Clause} {scope : Scope} (each : ∀ clause ∈ clauses, Unfailing database clause scope) :
      Unfailing database (.any clauses) scope
  | not {clause : Clause} {scope : Scope} (inner : Unfailing database clause scope) :
      Unfailing database (.not clause) scope
  | condition {leaf : Condition} {scope : Scope} {truth : Truth} (holds : leaf.eval scope = .ok truth) :
      Unfailing database (.condition leaf) scope
  | existing {table rename : String} {joins : List Join} {filter : Clause} {scope : Scope} {rows : List Scope}
      (scanned : database.scan table rename joins = .ok rows)
      (each : ∀ row ∈ rows, Unfailing database filter (row ++ scope)) :
      Unfailing database (.existing table rename joins filter) scope

section

variable {database : Database} {scope : Scope} {clause : Clause} {clauses : List Clause}

theorem join_unfailing_iff (connective : Connective) :
    (connective.join clauses).Unfailing database scope ↔
      ∀ clause ∈ clauses, clause.Unfailing database scope := by
  cases connective with
  | all => exact ⟨fun | .all each => each, .all⟩
  | any => exact ⟨fun | .any each => each, .any⟩

theorem not_unfailing_iff : (Clause.not clause).Unfailing database scope ↔ clause.Unfailing database scope :=
  ⟨fun | .not inner => inner, .not⟩

theorem collapse_unfailing_iff (connective : Connective) :
    (connective.collapse clauses).Unfailing database scope ↔
      (connective.join clauses).Unfailing database scope := by
  match connective, clauses with
  | .all, [] | .any, [] | .all, _ :: _ :: _ | .any, _ :: _ :: _ => exact Iff.rfl
  | .all, [clause] | .any, [clause] =>
      rw [join_unfailing_iff, List.forall_mem_singleton]
      exact Iff.rfl

theorem join_eval (connective : Connective) (each : ∀ clause ∈ clauses, clause.Evaluates database scope) :
    (connective.join clauses).eval database scope =
      .ok (connective.sum (clauses.map (truthOn database scope))) := by
  cases connective with
  | all => exact Clause.evalAll_eq clauses _ fun clause member => truthOn_ok (each clause member)
  | any => exact any_truth each

theorem Store.Clause.Unfailing.evaluates (unfailing : clause.Unfailing database scope) :
    clause.Evaluates database scope := by
  induction unfailing with
  | all _ ih => exact ⟨_, join_eval .all ih⟩
  | any _ ih => exact ⟨_, join_eval .any ih⟩
  | not _ ih => exact ⟨_, (not_eval _ _).trans (congrArg _ (truthOn_ok ih))⟩
  | condition holds => exact ⟨_, holds⟩
  | @existing table rename joins filter scope rows scanned _ ih =>
      obtain ⟨found, tested⟩ : ∃ found, (rows.anyM fun row => do
          return decide ((← filter.eval database (row ++ scope)) = Truth.yes)) = .ok found := by
        rw [← List.map_id rows]
        refine ⟨_, anyM_map_ok (fun row => decide (truthOn database (row ++ scope) filter = Truth.yes))
          fun row member => ?_⟩
        rw [id, truthOn_ok (ih row member)]
        rfl
      refine ⟨.ofBool found, ?_⟩
      rw [Clause.eval]
      exact bind_of_ok scanned (bind_of_ok tested rfl)

/-! The rearrangements. -/

/-- One turn of a clause: joined clauses become others with the same members, in any order and any number of times;
a junction inside of one of its kind gives its members to it; a single part stands alone; and the negation of a
junction becomes the junction of the negations. -/
inductive Turn : Clause → Clause → Prop
  | members (connective : Connective) {left right : List Clause}
      (same : ∀ clause, clause ∈ left ↔ clause ∈ right) : Turn (connective.join left) (connective.join right)
  | inner (connective : Connective) (before inner after : List Clause) :
      Turn (connective.join (before ++ connective.join inner :: after)) (connective.join (before ++ inner ++ after))
  | alone (connective : Connective) (clauses : List Clause) :
      Turn (connective.join clauses) (connective.collapse clauses)
  | negated (connective : Connective) (clauses : List Clause) :
      Turn (.not (connective.join clauses)) (connective.dual.join (clauses.map .not))

/-- One clause arises from another by turns, there and back, in any of its places. -/
def Rearranged : Clause → Clause → Prop :=
  Relation.EqvGen fun left right => ∃ (surroundings : Surroundings) (one other : Clause),
    Turn one other ∧ left = surroundings.fill one ∧ right = surroundings.fill other

theorem truthOn_join (connective : Connective) (each : ∀ clause ∈ clauses, clause.Evaluates database scope) :
    truthOn database scope (connective.join clauses) = connective.sum (clauses.map (truthOn database scope)) :=
  truthOn_eq (join_eval connective each)

theorem truthOn_not (evaluates : clause.Evaluates database scope) :
    truthOn database scope (.not clause) = (truthOn database scope clause).not :=
  truthOn_eq ((not_eval _ _).trans (congrArg _ (truthOn_ok evaluates)))

namespace Turn

variable {one other : Clause}

theorem unfailing_iff (turn : Turn one other) :
    one.Unfailing database scope ↔ other.Unfailing database scope := by
  cases turn with
  | members connective same => simp only [join_unfailing_iff, same]
  | inner connective before inner after =>
      simp only [join_unfailing_iff, List.forall_mem_append, List.forall_mem_cons, and_assoc]
  | alone connective clauses => exact (collapse_unfailing_iff connective).symm
  | negated connective clauses =>
      simp only [not_unfailing_iff, join_unfailing_iff, List.forall_mem_map]

theorem truth (turn : Turn one other) (unfailing : one.Unfailing database scope) :
    truthOn database scope one = truthOn database scope other := by
  have turned := turn.unfailing_iff.mp unfailing
  cases turn with
  | @members connective left right same =>
      rw [join_unfailing_iff] at unfailing turned
      rw [truthOn_join connective fun clause member => (unfailing clause member).evaluates,
        truthOn_join connective fun clause member => (turned clause member).evaluates]
      apply connective.sum_congr
      simp only [List.mem_map, same, implies_true]
  | inner connective before inner after =>
      rw [join_unfailing_iff] at unfailing turned
      have within := fun clause member => (turned clause member).evaluates
      rw [truthOn_join connective fun clause member => (unfailing clause member).evaluates,
        truthOn_join connective within, List.map_append, List.map_append, List.map_append, List.map_cons,
        truthOn_join connective fun clause member =>
          within clause (List.mem_append_left _ (List.mem_append_right _ member))]
      exact connective.sum_inner _ _ _
  | alone connective clauses =>
      rw [join_unfailing_iff] at unfailing
      match connective, clauses with
      | .all, [] | .any, [] | .all, _ :: _ :: _ | .any, _ :: _ :: _ => rfl
      | .all, [clause] | .any, [clause] =>
          rw [truthOn_join _ fun clause member => (unfailing clause member).evaluates]
          exact Connective.sum_single _ _
  | negated connective clauses =>
      have within := (not_unfailing_iff.mp unfailing)
      rw [truthOn_not within.evaluates]
      rw [join_unfailing_iff] at within turned
      rw [truthOn_join connective fun clause member => (within clause member).evaluates,
        truthOn_join connective.dual fun clause member => (turned clause member).evaluates,
        connective.not_sum, List.map_map, List.map_map]
      apply congrArg
      exact List.map_congr_left fun clause member => (truthOn_not (within clause member).evaluates).symm

end Turn

/-! Places. -/

variable {surroundings : Surroundings} {one other : Clause}

theorem unfailing_within (unfailing : (surroundings.fill one).Unfailing database scope) :
    ∀ row ∈ surroundings.reach database scope, one.Unfailing database row := by
  induction surroundings generalizing scope with
  | here =>
      intro row member
      rw [List.mem_singleton.mp member]
      exact unfailing
  | all before inner after ih =>
      cases unfailing with
      | all each => exact ih (each _ (by simp))
  | any before inner after ih =>
      cases unfailing with
      | any each => exact ih (each _ (by simp))
  | not inner ih => exact ih (not_unfailing_iff.mp unfailing)
  | existing table rename joins inner ih =>
      cases unfailing with
      | existing scanned each =>
          intro row member
          rw [Surroundings.reach, scanned] at member
          obtain ⟨outer, among, inside⟩ := List.mem_flatMap.mp member
          exact ih (each outer among) row inside

theorem unfailing_fill (unfailing : (surroundings.fill one).Unfailing database scope)
    (within : ∀ row ∈ surroundings.reach database scope, other.Unfailing database row) :
    (surroundings.fill other).Unfailing database scope := by
  induction surroundings generalizing scope with
  | here => exact within scope (List.mem_singleton.mpr rfl)
  | all before inner after ih =>
      cases unfailing with
      | all each =>
          simp only [List.forall_mem_append, List.forall_mem_cons] at each
          refine .all ?_
          simp only [List.forall_mem_append, List.forall_mem_cons]
          exact ⟨each.1, ih each.2.1 within, each.2.2⟩
  | any before inner after ih =>
      cases unfailing with
      | any each =>
          simp only [List.forall_mem_append, List.forall_mem_cons] at each
          refine .any ?_
          simp only [List.forall_mem_append, List.forall_mem_cons]
          exact ⟨each.1, ih each.2.1 within, each.2.2⟩
  | not inner ih => exact .not (ih (not_unfailing_iff.mp unfailing) within)
  | existing table rename joins inner ih =>
      cases unfailing with
      | existing scanned each =>
          refine .existing scanned fun row among => ih (each row among) fun reached inside => within reached ?_
          rw [Surroundings.reach, scanned]
          exact List.mem_flatMap.mpr ⟨row, among, inside⟩

/-- Nothing fails in one of two clauses where nothing fails in the other, and then they have the same truth. -/
def Agree (database : Database) (scope : Scope) (one other : Clause) : Prop :=
  (one.Unfailing database scope ↔ other.Unfailing database scope) ∧
    (one.Unfailing database scope → one.eval database scope = other.eval database scope)

theorem agree_equivalence : Equivalence (Agree database scope) where
  refl _ := ⟨Iff.rfl, fun _ => rfl⟩
  symm given := ⟨given.1.symm, fun unfailing => (given.2 (given.1.mpr unfailing)).symm⟩
  trans given later :=
    ⟨given.1.trans later.1, fun unfailing => (given.2 unfailing).trans (later.2 (given.1.mp unfailing))⟩

theorem Turn.agree (turn : Turn one other) (surroundings : Surroundings) :
    Agree database scope (surroundings.fill one) (surroundings.fill other) := by
  have step : (surroundings.fill one).Unfailing database scope ↔
      (surroundings.fill other).Unfailing database scope :=
    ⟨fun unfailing => unfailing_fill unfailing fun row among =>
        turn.unfailing_iff.mp (unfailing_within unfailing row among),
      fun unfailing => unfailing_fill unfailing fun row among =>
        turn.unfailing_iff.mpr (unfailing_within unfailing row among)⟩
  refine ⟨step, fun unfailing => ?_⟩
  obtain ⟨truth, evaluated⟩ := unfailing.evaluates
  obtain ⟨truth', evaluated'⟩ := (step.mp unfailing).evaluates
  have within (row : Scope) (among : row ∈ surroundings.reach database scope) :
      AlikeOn Eq database row one other := by
    intro left right first second
    rw [← truthOn_eq first, ← truthOn_eq second]
    exact turn.truth (unfailing_within unfailing row among)
  have alike := fill_alike survives_eq (.inr fun _ _ same => congrArg Truth.not same) within
  rw [evaluated, evaluated', alike truth truth' evaluated evaluated']

/-- Rearranging a clause, its subqueries included, keeps its truth on every row on which nothing fails, and nothing
fails afterwards either. -/
theorem rearrangement_keeps_truth (unfailing : one.Unfailing database scope) (rearranged : Rearranged one other) :
    ∃ truth, one.eval database scope = .ok truth ∧ other.eval database scope = .ok truth := by
  have agree : Agree database scope one other :=
    agree_equivalence.eqvGen_iff.mp (rearranged.mono fun _ _ ⟨surroundings, _, _, turn, left, right⟩ =>
      left ▸ right ▸ turn.agree surroundings)
  obtain ⟨truth, evaluated⟩ := unfailing.evaluates
  exact ⟨truth, evaluated, (agree.2 unfailing).symm.trans evaluated⟩

end

/-! Two people, the first of whom leads the second, and is led by nobody. -/

namespace Staff

def database : Database :=
  ⟨[⟨"people", [⟨"id", .integer⟩, ⟨"leader", .integer⟩], [],
    [[.integer 1, .null], [.integer 2, .integer 1]], 1⟩]⟩

def first : Scope := [(.ofTable "p" "id", .integer 1), (.ofTable "p" "leader", .null)]

def unled : Clause := .condition (.isNull (.ofTable "p" "leader"))

def leads : Clause := .condition (.compare (.ofTable "q" "leader") "=" (.column (.ofTable "p" "id")))

def follows : Clause := .condition (.compare (.ofTable "p" "leader") "=" (.column (.ofTable "q" "id")))

def rows : List Scope :=
  [[(.ofTable "q" "id", .integer 1), (.ofTable "q" "leader", .null)],
    [(.ofTable "q" "id", .integer 2), (.ofTable "q" "leader", .integer 1)]]

def knit : Clause :=
  .all [unled, .not (.existing "people" "q" [] (.not (.any [follows, .any [leads, follows]])))]

def loose : Clause :=
  .all [.not (.existing "people" "q" [] (.all [.not follows, .not leads])), unled]

theorem knit_unfailing : knit.Unfailing database first := by
  have follow : ∀ row ∈ rows, follows.Unfailing database (row ++ first) := by
    intro row among
    rcases List.mem_pair.mp among with rfl | rfl <;> exact .condition rfl
  have lead : ∀ row ∈ rows, leads.Unfailing database (row ++ first) := by
    intro row among
    rcases List.mem_pair.mp among with rfl | rfl <;> exact .condition rfl
  have scanned : database.scan "people" "q" [] = .ok rows := rfl
  have pair {one other : Clause} {row : Scope} (first : one.Unfailing database row)
      (second : other.Unfailing database row) :
      ∀ clause ∈ [one, other], clause.Unfailing database row :=
    List.forall_mem_cons.mpr ⟨first, List.forall_mem_singleton.mpr second⟩
  exact .all (pair (.condition rfl) (.not (.existing scanned fun row among =>
    .not (.any (pair (follow row among) (.any (pair (lead row among) (follow row among))))))))

theorem knit_rearranged : Rearranged knit loose := by
  have inside {one other : Clause} (turn : Turn one other) (around : Surroundings) :
      Rearranged (.all [unled, .not (.existing "people" "q" [] (around.fill one))])
        (.all [unled, .not (.existing "people" "q" [] (around.fill other))]) :=
    .rel _ _ ⟨.all [unled] (.not (.existing "people" "q" [] around)) [], one, other, turn, rfl, rfl⟩
  have flattened := inside (.inner .any [follows] [leads, follows] []) (.not .here)
  have repeated (clause : Clause) : clause ∈ [follows, leads, follows] ↔ clause ∈ [follows, leads] := by
    simp only [List.mem_cons, List.not_mem_nil, or_false]
    tauto
  have shortened := inside (.members .any repeated) (.not .here)
  have negated := inside (.negated .any [follows, leads]) .here
  have swapped :
      Rearranged (.all [unled, .not (.existing "people" "q" [] (.all [.not follows, .not leads]))]) loose :=
    .rel _ _ ⟨.here, _, _, .members .all fun clause => List.Perm.mem_iff (.swap _ _ _), rfl, rfl⟩
  exact .trans _ _ _ flattened (.trans _ _ _ shortened (.trans _ _ _ negated swapped))

end Staff

theorem negations_inside_subquery :
    ∃ truth, Staff.knit.eval Staff.database Staff.first = .ok truth ∧
      Staff.loose.eval Staff.database Staff.first = .ok truth :=
  rearrangement_keeps_truth Staff.knit_unfailing Staff.knit_rearranged

end ResourceServer
