import Mathlib.Order.Compare
import ResourceServer.Proofs.Agreement
import ResourceServer.Proofs.Arrangement

/-! The order of sort keys: one column after another, each upwards or downwards, with nulls first. -/

namespace ResourceServer

open ResourceServer.Number ResourceServer.Calendar ResourceServer.Store

namespace Store.Cell

/-- A value comes sooner than another in a column that is sorted upwards or downwards: a null before all others,
and otherwise the smaller one or the larger one. -/
def Sooner (descending : Bool) (left right : Cell) : Prop :=
  left = .null ∧ right ≠ .null ∨
    (if descending then right.meets .lt left else left.meets .lt right) = .yes

def Level (left right : Cell) : Prop :=
  left = .null ∧ right = .null ∨ left.agrees right = true

end Store.Cell

/-- A key comes sooner than another: in the first column where the two are not level. -/
inductive KeySooner : List Bool → List Cell → List Cell → Prop
  | here {descending : Bool} {directions : List Bool} {left right : Cell} {lefts rights : List Cell}
      (first : left.Sooner descending right) :
      KeySooner (descending :: directions) (left :: lefts) (right :: rights)
  | later {descending : Bool} {directions : List Bool} {left right : Cell} {lefts rights : List Cell}
      (level : left.Level right) (rest : KeySooner directions lefts rights) :
      KeySooner (descending :: directions) (left :: lefts) (right :: rights)

def KeyTied (lefts rights : List Cell) : Prop :=
  List.Forall₂ Cell.Level lefts rights

namespace Orders

variable {α β : Type} {compare compare' : α → α → Ordering} {fits : α → Prop}

theorem of_trans (compare : α → α → Ordering) [Std.TransCmp compare] (fits : α → Prop) :
    Orders compare fits where
  swapped _ _ _ _ := Std.OrientedCmp.eq_swap
  through _ _ _ _ _ _ one other := by
    apply Ordering.ne_gt_iff_isLE.mpr
    exact Std.TransCmp.isLE_trans (Ordering.ne_gt_iff_isLE.mp one) (Ordering.ne_gt_iff_isLE.mp other)

theorem onto {compare' : β → β → Ordering} {fits' : β → Prop} (orders : Orders compare' fits')
    (place : α → β) (fitting : ∀ item, fits item → fits' (place item))
    (same : ∀ left right, fits left → fits right →
      compare left right = compare' (place left) (place right)) : Orders compare fits where
  swapped left right fit fit' := by
    rw [same _ _ fit fit', same _ _ fit' fit]
    exact orders.swapped _ _ (fitting _ fit) (fitting _ fit')
  through left middle right fit fit' fit'' one other := by
    rw [same _ _ fit fit'] at one
    rw [same _ _ fit' fit''] at other
    rw [same _ _ fit fit'']
    exact orders.through _ _ _ (fitting _ fit) (fitting _ fit') (fitting _ fit'') one other

section

variable (orders : Orders compare fits)
include orders

theorem level_between {left middle right : α} (fit : fits left) (fit' : fits middle)
    (fit'' : fits right) (one : compare left middle ≠ .gt) (other : compare middle right ≠ .gt)
    (level : compare left right = .eq) : compare left middle = .eq ∧ compare middle right = .eq := by
  have back : compare right left ≠ .gt := by
    rw [orders.swapped _ _ fit fit'', level]
    nofun
  have first := orders.through _ _ _ fit' fit'' fit other back
  have second := orders.through _ _ _ fit'' fit fit' back one
  rw [orders.swapped _ _ fit fit'] at first
  rw [orders.swapped _ _ fit' fit''] at second
  constructor
  · cases outcome : compare left middle with
    | lt => exact absurd (by rw [outcome]; rfl) first
    | eq => rfl
    | gt => exact absurd outcome one
  · cases outcome : compare middle right with
    | lt => exact absurd (by rw [outcome]; rfl) second
    | eq => rfl
    | gt => exact absurd outcome other

theorem swap : Orders (fun left right => (compare left right).swap) fits where
  swapped left right fit fit' := by rw [orders.swapped _ _ fit fit']
  through left middle right fit fit' fit'' one other := by
    rw [← orders.swapped _ _ fit fit'] at one
    rw [← orders.swapped _ _ fit' fit''] at other
    rw [← orders.swapped _ _ fit fit'']
    exact orders.through _ _ _ fit'' fit' fit other one

theorem followed (orders' : Orders compare' fits) :
    Orders (fun left right => (compare left right).then (compare' left right)) fits where
  swapped left right fit fit' := by
    rw [orders.swapped _ _ fit fit', orders'.swapped _ _ fit fit', Ordering.swap_then]
  through left middle right fit fit' fit'' one other := by
    have front {left right : α} (below : (compare left right).then (compare' left right) ≠ .gt) :
        compare left right ≠ .gt := by
      intro above
      rw [above] at below
      exact below rfl
    have through := orders.through _ _ _ fit fit' fit'' (front one) (front other)
    cases outcome : compare left right with
    | lt => nofun
    | eq =>
        obtain ⟨first, second⟩ :=
          orders.level_between fit fit' fit'' (front one) (front other) outcome
        rw [first] at one
        rw [second] at other
        exact orders'.through _ _ _ fit fit' fit'' one other
    | gt => exact absurd outcome through

end

end Orders

def Store.Cell.order (left right : Cell) : Ordering :=
  (left.compare? right).getD .eq

def Store.ColumnType.Fills (kind : ColumnType) (cell : Cell) : Prop :=
  kind.admits cell ∧ cell ≠ .null

theorem dates_ordered : Orders Date.compare fun _ => True := by
  have whole := Orders.of_trans (Ord.compare : Int → Int → Ordering) fun _ => True
  have natural := Orders.of_trans (Ord.compare : Nat → Nat → Ordering) fun _ => True
  exact (whole.onto Date.year (fun _ fit => fit) fun _ _ _ _ => rfl).followed
    ((natural.onto Date.month (fun _ fit => fit) fun _ _ _ _ => rfl).followed
      (natural.onto Date.day (fun _ fit => fit) fun _ _ _ _ => rfl))

theorem times_ordered : Orders Time.compare fun _ => True := by
  have natural := Orders.of_trans (Ord.compare : Nat → Nat → Ordering) fun _ => True
  exact (natural.onto Time.hour (fun _ fit => fit) fun _ _ _ _ => rfl).followed
    ((natural.onto Time.minute (fun _ fit => fit) fun _ _ _ _ => rfl).followed
      ((natural.onto Time.second (fun _ fit => fit) fun _ _ _ _ => rfl).followed
        (natural.onto Time.nanosecond (fun _ fit => fit) fun _ _ _ _ => rfl)))

theorem timestamps_ordered : Orders Timestamp.compare fun _ => True :=
  (dates_ordered.onto Timestamp.date (fun _ fit => fit) fun _ _ _ _ => rfl).followed
    (times_ordered.onto Timestamp.time (fun _ fit => fit) fun _ _ _ _ => rfl)

theorem held_ordered {β : Type} {compare : β → β → Ordering} (orders : Orders compare fun _ => True)
    {kind : ColumnType} (hold : β → Cell) (held : ∀ cell, kind.Fills cell → ∃ value, cell = hold value)
    (same : ∀ left right, (hold left).compare? (hold right) = some (compare left right)) :
    Orders Cell.order kind.Fills where
  swapped left right fit fit' := by
    obtain ⟨left, rfl⟩ := held left fit
    obtain ⟨right, rfl⟩ := held right fit'
    unfold Cell.order
    rw [same, same]
    exact orders.swapped _ _ trivial trivial
  through left middle right fit fit' fit'' one other := by
    obtain ⟨left, rfl⟩ := held left fit
    obtain ⟨middle, rfl⟩ := held middle fit'
    obtain ⟨right, rfl⟩ := held right fit''
    unfold Cell.order at one other ⊢
    rw [same] at one other ⊢
    exact orders.through _ _ _ trivial trivial trivial one other

theorem decimals_ordered : Orders Cell.order ColumnType.decimal.Fills := by
  let rank : Bool × Nat → Int := fun number => if number.1 then -number.2 else number.2
  have ranked := (Orders.of_trans (Ord.compare : Int → Int → Ordering) fun _ => True).onto rank
    (fun _ (fit : True) => fit) fun _ _ _ _ => rfl
  refine held_ordered ranked (fun number => .decimal (.signed number.1 number.2)) ?_ ?_
  · rintro cell ⟨admitted, given⟩
    rcases admits_cases admitted with empty | ⟨kind, defined⟩
    · exact absurd empty given
    · cases cell with
      | decimal value =>
          cases value with
          | nan => exact absurd rfl defined
          | signed negative magnitude => exact ⟨(negative, magnitude), rfl⟩
      | _ => cases kind
  · rintro ⟨_ | _, _⟩ ⟨_ | _, _⟩ <;> rfl

theorem values_ordered (kind : ColumnType) : Orders Cell.order kind.Fills := by
  have whole := Orders.of_trans (Ord.compare : Int → Int → Ordering) fun _ => True
  have typed {cell : Cell} (fills : kind.Fills cell) : cell.type? = some kind.stored :=
    ((admits_cases fills.1).resolve_left fills.2).1
  cases kind with
  | bool =>
      refine held_ordered (.of_trans (Ord.compare : Bool → Bool → Ordering) _) Cell.bool
        (fun cell fills => ?_) fun _ _ => rfl
      cases cell <;> first | exact ⟨_, rfl⟩ | cases typed fills
  | integer | serial =>
      refine held_ordered whole Cell.integer (fun cell fills => ?_) fun _ _ => rfl
      cases cell <;> first | exact ⟨_, rfl⟩ | cases typed fills
  | decimal => exact decimals_ordered
  | text =>
      refine held_ordered (.of_trans (Ord.compare : String → String → Ordering) _) Cell.text
        (fun cell fills => ?_) fun _ _ => rfl
      cases cell <;> first | exact ⟨_, rfl⟩ | cases typed fills
  | date =>
      refine held_ordered dates_ordered Cell.date (fun cell fills => ?_) fun _ _ => rfl
      cases cell <;> first | exact ⟨_, rfl⟩ | cases typed fills
  | timestamp =>
      refine held_ordered timestamps_ordered Cell.timestamp (fun cell fills => ?_) fun _ _ => rfl
      cases cell <;> first | exact ⟨_, rfl⟩ | cases typed fills
  | time =>
      refine held_ordered times_ordered Cell.time (fun cell fills => ?_) fun _ _ => rfl
      cases cell <;> first | exact ⟨_, rfl⟩ | cases typed fills
  | interval =>
      refine held_ordered (whole.onto Duration.microseconds (fun _ fit => fit) fun _ _ _ _ => rfl)
        Cell.interval (fun cell fills => ?_) fun _ _ => rfl
      cases cell <;> first | exact ⟨_, rfl⟩ | cases typed fills

section

variable {kind : ColumnType} {descending : Bool} {left right : Cell}

theorem isNull_iff {cell : Cell} : cell.isNull = true ↔ cell = .null := by
  cases cell <;> simp [Cell.isNull]

theorem compareKey_null : Select.compareKey descending .null right = if right = .null then .eq else .lt := by
  cases right <;> rfl

theorem compareKey_last (given : left ≠ .null) : Select.compareKey descending left .null = .gt := by
  cases left <;> first | rfl | exact absurd rfl given

theorem compareKey_values (given : left ≠ .null) (given' : right ≠ .null) :
    Select.compareKey descending left right =
      if descending then (left.order right).swap else left.order right := by
  have full : left.isNull = false := Bool.eq_false_iff.mpr fun null => given (isNull_iff.mp null)
  have full' : right.isNull = false := Bool.eq_false_iff.mpr fun null => given' (isNull_iff.mp null)
  unfold Select.compareKey
  rw [full, full']
  rfl

theorem directed_ordered (kind : ColumnType) (descending : Bool) :
    Orders (fun left right => if descending then (left.order right).swap else left.order right)
      kind.Fills := by
  cases descending with
  | true => exact (values_ordered kind).swap
  | false => exact values_ordered kind

theorem column_ordered (kind : ColumnType) (descending : Bool) :
    Orders (Select.compareKey descending) fun cell => kind.admits cell where
  swapped left right fit fit' := by
    by_cases given : left = .null
    · subst given
      by_cases given' : right = .null
      · rw [given']
        rfl
      · rw [compareKey_last given', compareKey_null, if_neg given']
        rfl
    · by_cases given' : right = .null
      · subst given'
        rw [compareKey_last given, compareKey_null, if_neg given]
        rfl
      · rw [compareKey_values given given', compareKey_values given' given]
        exact (directed_ordered kind descending).swapped _ _ ⟨fit, given⟩ ⟨fit', given'⟩
  through left middle right fit fit' fit'' one other := by
    by_cases given : left = .null
    · rw [given, compareKey_null]
      split <;> nofun
    · have given' : middle ≠ .null := by
        rintro rfl
        exact one (compareKey_last given)
      have given'' : right ≠ .null := by
        rintro rfl
        exact other (compareKey_last given')
      rw [compareKey_values given given'] at one
      rw [compareKey_values given' given''] at other
      rw [compareKey_values given given'']
      exact (directed_ordered kind descending).through _ _ _ ⟨fit, given⟩ ⟨fit', given'⟩
        ⟨fit'', given''⟩ one other

theorem order_defined (fit : kind.Fills left) (fit' : kind.Fills right) :
    left.compare? right = some (left.order right) := by
  rcases comparable fit.1 fit'.1 fit'.2 with empty | defined
  · exact absurd empty fit.2
  · obtain ⟨ordering, same⟩ := Option.isSome_iff_exists.mp defined
    unfold Cell.order
    rw [same]
    rfl

theorem meets_lt (fit : kind.Fills left) (fit' : kind.Fills right) :
    left.meets .lt right = .yes ↔ left.order right = .lt := by
  unfold Cell.meets
  rw [order_defined fit fit']
  cases left.order right <;> decide

theorem meets_null (cell : Cell) (comparison : Filter.Comparison) :
    cell.meets comparison .null = .unknown ∧ Cell.null.meets comparison cell = .unknown := by
  cases cell <;> exact ⟨rfl, rfl⟩

theorem compareKey_lt (fit : kind.admits left) (fit' : kind.admits right) :
    Select.compareKey descending left right = .lt ↔ left.Sooner descending right := by
  unfold Cell.Sooner
  by_cases given : left = .null
  · subst given
    have never : (if descending then right.meets .lt .null else Cell.null.meets .lt right) ≠ .yes := by
      split
      · rw [(meets_null right .lt).1]
        nofun
      · rw [(meets_null right .lt).2]
        nofun
    rw [compareKey_null, or_iff_left never]
    by_cases given' : right = .null <;> simp [given']
  · by_cases given' : right = .null
    · subst given'
      have never : (if descending then Cell.null.meets .lt left else left.meets .lt .null) ≠ .yes := by
        split
        · rw [(meets_null left .lt).2]
          nofun
        · rw [(meets_null left .lt).1]
          nofun
      rw [compareKey_last given, or_iff_left never]
      simp [given]
    · rw [compareKey_values given given', or_iff_right (fun null => given null.1)]
      cases descending with
      | true =>
          rw [if_pos rfl, if_pos rfl, meets_lt ⟨fit', given'⟩ ⟨fit, given⟩,
            (values_ordered kind).swapped _ _ ⟨fit, given⟩ ⟨fit', given'⟩]
      | false =>
          rw [if_neg Bool.false_ne_true, if_neg Bool.false_ne_true, meets_lt ⟨fit, given⟩ ⟨fit', given'⟩]

theorem compareKey_eq (fit : kind.admits left) (fit' : kind.admits right) :
    Select.compareKey descending left right = .eq ↔ left.Level right := by
  unfold Cell.Level
  by_cases given : left = .null
  · subst given
    have never : Cell.null.agrees right = false := by cases right <;> rfl
    rw [compareKey_null, never]
    by_cases given' : right = .null <;> simp [given']
  · by_cases given' : right = .null
    · subst given'
      rw [compareKey_last given, Cell.agrees_null]
      simp [given]
    · rw [compareKey_values given given', or_iff_right (fun null => given null.1)]
      unfold Cell.agrees
      rw [order_defined ⟨fit, given⟩ ⟨fit', given'⟩]
      cases descending <;> simp

end

def KeyFits (kinds : List ColumnType) (key : List Cell) : Prop :=
  List.Forall₂ (fun kind cell => kind.admits cell) kinds key

theorem keys_ordered (order : List SortColumn) (kinds : List ColumnType) :
    Orders (Select.compareKeys order) (KeyFits kinds) := by
  induction kinds generalizing order with
  | nil =>
      refine ⟨fun left right fit fit' => ?_, fun left middle right fit fit' fit'' _ _ => ?_⟩
      · cases fit
        cases fit'
        cases order <;> rfl
      · cases fit
        cases fit''
        cases order <;> nofun
  | cons kind kinds ih =>
      cases order with
      | nil => exact ⟨fun _ _ _ _ => rfl, fun _ _ _ _ _ _ _ _ => nofun⟩
      | cons sort order =>
          have firsts := (column_ordered kind sort.descending).onto
            (fun key : Cell × List Cell => key.1) (fun key (fit : kind.admits key.1 ∧
              KeyFits kinds key.2) => fit.1) fun _ _ _ _ => rfl
          have rests := (ih order).onto (fun key : Cell × List Cell => key.2)
            (fun key (fit : kind.admits key.1 ∧ KeyFits kinds key.2) => fit.2) fun _ _ _ _ => rfl
          refine (firsts.followed rests).onto (fun key => (key.headD .null, key.tail)) ?_ ?_
          · rintro key (_ | ⟨fit, fits⟩)
            exact ⟨fit, fits⟩
          · rintro left right (_ | ⟨fit, fits⟩) (_ | ⟨fit', fits'⟩)
            rfl

section

variable {kinds : List ColumnType} {order : List SortColumn} {lefts rights : List Cell}

theorem compareKeys_lt (aligned : order.length = kinds.length) (fit : KeyFits kinds lefts)
    (fit' : KeyFits kinds rights) : Select.compareKeys order lefts rights = .lt ↔
      KeySooner (order.map SortColumn.descending) lefts rights := by
  induction fit generalizing order rights with
  | nil =>
      cases fit'
      cases order with
      | nil => exact iff_of_false nofun nofun
      | cons _ _ => cases aligned
  | @cons kind left kinds lefts one _ ih =>
      cases fit' with
      | @cons _ right _ rights one' rest' =>
          cases order with
          | nil => cases aligned
          | cons sort order =>
              have later := ih (Nat.succ.inj aligned) rest'
              rw [List.map_cons]
              unfold Select.compareKeys
              rw [Ordering.then_eq_lt, compareKey_lt one one', compareKey_eq one one', later]
              constructor
              · rintro (first | ⟨level, rest⟩)
                · exact .here first
                · exact .later level rest
              · rintro (first | ⟨level, rest⟩)
                · exact .inl first
                · exact .inr ⟨level, rest⟩

/-- Two keys sort alike if they are tied. -/
theorem compareKeys_eq (aligned : order.length = kinds.length) (fit : KeyFits kinds lefts)
    (fit' : KeyFits kinds rights) :
    Select.compareKeys order lefts rights = .eq ↔ KeyTied lefts rights := by
  induction fit generalizing order rights with
  | nil =>
      cases fit'
      cases order with
      | nil => exact iff_of_true rfl .nil
      | cons _ _ => cases aligned
  | @cons kind left kinds lefts one _ ih =>
      cases fit' with
      | @cons _ right _ rights one' rest' =>
          cases order with
          | nil => cases aligned
          | cons sort order =>
              unfold Select.compareKeys KeyTied
              rw [Ordering.then_eq_eq, compareKey_eq one one', List.forall₂_cons,
                ih (Nat.succ.inj aligned) rest']
              rfl

end

end ResourceServer
