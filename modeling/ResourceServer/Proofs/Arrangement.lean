import Mathlib.Data.List.Induction
import Mathlib.Data.List.Pairwise
import ResourceServer.Proofs.Loading

/-! Sorting arranges items: those that come sooner stand before others, and ties keep the places they had. -/

namespace ResourceServer

variable {α β : Type}

/-- Items with their places in an order, where an item is before another if it comes sooner, or if both are tied
and its place is before the other's. -/
def Ranked (sooner tied : α → α → Prop) (left right : α × Nat) : Prop :=
  sooner left.1 right.1 ∨ tied left.1 right.1 ∧ left.2 < right.2

/-- Some items in another order: each once, sooner ones first, and ties in the places they had. -/
def Arranged (sooner tied : α → α → Prop) (items arranged : List α) : Prop :=
  ∃ placed : List (α × Nat), placed.Perm items.zipIdx ∧ placed.Pairwise (Ranked sooner tied) ∧
    arranged = placed.map Prod.fst

structure Orders (compare : α → α → Ordering) (fits : α → Prop) : Prop where
  swapped : ∀ left right, fits left → fits right → compare right left = (compare left right).swap
  through : ∀ left middle right, fits left → fits middle → fits right →
    compare left middle ≠ .gt → compare middle right ≠ .gt → compare left right ≠ .gt

section

variable {sooner tied : α → α → Prop} {items arranged : List α}

theorem Arranged.perm (arrangement : Arranged sooner tied items arranged) : arranged.Perm items := by
  obtain ⟨placed, permuted, _, rfl⟩ := arrangement
  have mapped := permuted.map Prod.fst
  rwa [List.zipIdx_map_fst] at mapped

theorem Arranged.length_eq (arrangement : Arranged sooner tied items arranged) :
    arranged.length = items.length :=
  arrangement.perm.length_eq

theorem Arranged.congr {sooner' tied' : α → α → Prop} (arrangement : Arranged sooner tied items arranged)
    (before : ∀ left ∈ items, ∀ right ∈ items, sooner left right → sooner' left right)
    (level : ∀ left ∈ items, ∀ right ∈ items, tied left right → tied' left right) :
    Arranged sooner' tied' items arranged := by
  obtain ⟨placed, permuted, ordered, rfl⟩ := arrangement
  have listed (entry : α × Nat) (member : entry ∈ placed) : entry.1 ∈ items := by
    have mapped := List.mem_map_of_mem (f := Prod.fst) (permuted.mem_iff.mp member)
    rwa [List.zipIdx_map_fst] at mapped
  refine ⟨placed, permuted, ordered.imp_of_mem fun {left right} member member' ranked => ?_, rfl⟩
  rcases ranked with first | ⟨same, place⟩
  · exact .inl (before _ (listed left member) _ (listed right member') first)
  · exact .inr ⟨level _ (listed left member) _ (listed right member') same, place⟩

end

section

variable {compare : α → α → Ordering} {fits : α → Prop} (orders : Orders compare fits)
include orders

def Follows (compare : α → α → Ordering) (later earlier : α × Nat) : Prop :=
  Ranked (fun left right => compare left right = .lt) (fun left right => compare left right = .eq)
    earlier later

theorem insertBack_follows {item : α × Nat} {sorted : List (α × Nat)}
    (last : ∀ other ∈ sorted, other.2 < item.2) (fit : fits item.1)
    (fitting : ∀ other ∈ sorted, fits other.1) (ordered : sorted.Pairwise (Follows compare)) :
    (insertBack (fun left right => compare left.1 right.1) item sorted).Pairwise (Follows compare) := by
  induction sorted with
  | nil => exact List.pairwise_singleton _ _
  | cons other rest ih =>
      obtain ⟨behind, ordered'⟩ := List.pairwise_cons.mp ordered
      have fit' := fitting other List.mem_cons_self
      unfold insertBack
      split
      · rename_i sooner
        refine List.pairwise_cons.mpr ⟨fun entry member => ?_, ih
          (fun entry member => last entry (List.mem_cons_of_mem _ member))
          (fun entry member => fitting entry (List.mem_cons_of_mem _ member)) ordered'⟩
        rcases List.mem_cons.mp ((insertBack_perm _ item rest).mem_iff.mp member) with rfl | inside
        · exact .inl sooner
        · exact behind entry inside
      · rename_i unsooner
        refine List.pairwise_cons.mpr ⟨fun entry member => ?_, ordered⟩
        have place := last entry member
        have before : compare entry.1 item.1 ≠ .gt := by
          have front : compare other.1 item.1 ≠ .gt := by
            rw [orders.swapped _ _ fit fit']
            simpa using unsooner
          rcases List.mem_cons.mp member with rfl | inside
          · exact front
          · have up : compare entry.1 other.1 ≠ .gt := by
              rcases behind entry inside with sooner | ⟨tied, _⟩
              · rw [sooner]
                decide
              · rw [tied]
                decide
            exact orders.through _ _ _ (fitting entry member) fit' fit up front
        cases outcome : compare entry.1 item.1 with
        | lt => exact .inl outcome
        | eq => exact .inr ⟨outcome, place⟩
        | gt => exact absurd outcome before

theorem stableSort_arranged {items : List α} (fitting : ∀ item ∈ items, fits item) :
    Arranged (fun left right => compare left right = .lt) (fun left right => compare left right = .eq)
      items (stableSort compare items) := by
  have inserted (start : Nat) (sorted : List (α × Nat)) (before : ∀ other ∈ sorted, other.2 < start)
      (fitting' : ∀ other ∈ sorted, fits other.1) (ordered : sorted.Pairwise (Follows compare)) :
      ((items.zipIdx start).foldl (fun sorted item =>
        insertBack (fun left right => compare left.1 right.1) item sorted) sorted).Pairwise
          (Follows compare) := by
    induction items generalizing start sorted with
    | nil => exact ordered
    | cons item rest ih =>
        rw [List.zipIdx_cons, List.foldl_cons]
        have fit := fitting item List.mem_cons_self
        have among {entry : α × Nat} (member : entry ∈ insertBack
            (fun left right => compare left.1 right.1) (item, start) sorted) :
            entry = (item, start) ∨ entry ∈ sorted :=
          List.mem_cons.mp ((insertBack_perm _ _ sorted).mem_iff.mp member)
        refine ih (fun other member => fitting other (List.mem_cons_of_mem _ member)) (start + 1) _
          (fun entry member => ?_) (fun entry member => ?_)
          (insertBack_follows orders before fit fitting' ordered)
        · rcases among member with rfl | inside
          · exact Nat.lt_succ_self start
          · exact Nat.lt_succ_of_lt (before entry inside)
        · rcases among member with rfl | inside
          · exact fit
          · exact fitting' entry inside
  refine ⟨stableSort (fun left right => compare left.1 right.1) items.zipIdx, stableSort_perm _ _,
    List.pairwise_reverse.mpr (inserted 0 [] nofun nofun .nil), ?_⟩
  rw [← stableSort_map, List.zipIdx_map_fst]

end

theorem stableSort_concat (compare : α → α → Ordering) (items : List α) (item : α) :
    stableSort compare (items ++ [item]) =
      (insertBack compare item (stableSort compare items).reverse).reverse := by
  simp [stableSort]

theorem insertBack_front {compare : α → α → Ordering} {item : α} {sorted : List α}
    (last : ∀ other ∈ sorted, compare item other ≠ .lt) :
    insertBack compare item sorted = item :: sorted := by
  cases sorted with
  | nil => rfl
  | cons other rest => exact if_neg (last other List.mem_cons_self)

section

variable {compare : α → α → Ordering} {fits : α → Prop} (orders : Orders compare fits)
include orders

theorem stableSort_pairwise {items : List α} (fitting : ∀ item ∈ items, fits item) :
    (stableSort compare items).Pairwise fun left right => compare left right ≠ .gt := by
  obtain ⟨placed, _, ordered, same⟩ := stableSort_arranged orders fitting
  rw [same, List.pairwise_map]
  apply ordered.imp
  rintro left right (sooner | ⟨tied, _⟩)
  · rw [sooner]
    nofun
  · rw [tied]
    nofun

theorem insertBack_filter (test : α → Bool) {item : α} {sorted : List α} (fit : fits item)
    (fitting : ∀ other ∈ sorted, fits other)
    (ordered : sorted.Pairwise fun later earlier => compare earlier later ≠ .gt) :
    (insertBack compare item sorted).filter test =
      if test item then insertBack compare item (sorted.filter test) else sorted.filter test := by
  induction sorted with
  | nil => simp [insertBack, List.filter_cons]
  | cons last rest ih =>
      obtain ⟨behind, ordered'⟩ := List.pairwise_cons.mp ordered
      obtain ⟨fit', fitting'⟩ := List.forall_mem_cons.mp fitting
      have later := ih fitting' ordered'
      by_cases sooner : compare item last = .lt
      · rw [insertBack, if_pos sooner]
        cases passed : test last with
        | true =>
            rw [List.filter_cons_of_pos passed, List.filter_cons_of_pos passed, later]
            split
            · rw [insertBack, if_pos sooner]
            · rfl
        | false => simpa [passed] using later
      · -- the item goes in front, of all that pass the test as well
        have front : compare last item ≠ .gt := by
          rw [orders.swapped _ _ fit fit']
          simpa using sooner
        have place : ∀ other ∈ last :: rest, compare item other ≠ .lt := by
          intro other member
          rcases List.mem_cons.mp member with rfl | inside
          · exact sooner
          · have below := orders.through _ _ _ (fitting' other inside) fit' fit
              (behind other inside) front
            rw [orders.swapped _ _ fit (fitting' other inside)] at below
            simpa using below
        rw [insertBack_front place,
          insertBack_front fun other member => place other (List.mem_filter.mp member).1,
          List.filter_cons]

theorem stableSort_filter (test : α → Bool) {items : List α} (fitting : ∀ item ∈ items, fits item) :
    (stableSort compare items).filter test = stableSort compare (items.filter test) := by
  induction items using List.reverseRecOn with
  | nil => rfl
  | append_singleton items item ih =>
      obtain ⟨before, fit⟩ := List.forall_mem_append.mp fitting
      have fitting' : ∀ other ∈ (stableSort compare items).reverse, fits other := fun other member =>
        before other ((stableSort_perm compare items).mem_iff.mp (List.mem_reverse.mp member))
      have placed := insertBack_filter orders test (fit item List.mem_cons_self) fitting'
        (List.pairwise_reverse.mpr (stableSort_pairwise orders before))
      rw [stableSort_concat, List.filter_reverse, placed, List.filter_reverse, ih before,
        List.filter_append]
      cases passed : test item with
      | true => simp [passed, stableSort_concat]
      | false => simp [passed]

end

theorem stableSort_level {compare : α → α → Ordering} (level : ∀ left right, compare left right ≠ .lt)
    (items : List α) : stableSort compare items = items := by
  have front (item : α) (sorted : List α) : insertBack compare item sorted = item :: sorted := by
    cases sorted with
    | nil => rfl
    | cons last rest => simp [insertBack, level item last]
  simp [stableSort, front]

section

variable {related : α → β → Prop} {compare : α → α → Ordering} {compare' : β → β → Ordering}
  (alike : ∀ left right left' right', related left left' → related right right' →
    compare' left' right' = compare left right)
include alike

theorem insertBack_forall₂ {item : α} {other : β} (one : related item other) {items : List α}
    {others : List β} (all : List.Forall₂ related items others) :
    List.Forall₂ related (insertBack compare item items) (insertBack compare' other others) := by
  induction all with
  | nil => exact .cons one .nil
  | @cons last last' rest rest' first later ih =>
      unfold insertBack
      rw [alike _ _ _ _ one first]
      split
      · exact .cons first ih
      · exact .cons one (.cons first later)

/-- Items that are related and compare alike are related when they are sorted. -/
theorem stableSort_forall₂ {items : List α} {others : List β}
    (all : List.Forall₂ related items others) :
    List.Forall₂ related (stableSort compare items) (stableSort compare' others) := by
  have inserted {sorted : List α} {sorted' : List β} (before : List.Forall₂ related sorted sorted') :
      List.Forall₂ related
        (items.foldl (fun sorted item => insertBack compare item sorted) sorted)
        (others.foldl (fun sorted item => insertBack compare' item sorted) sorted') := by
    induction all generalizing sorted sorted' with
    | nil => exact before
    | cons one _ ih => exact ih (insertBack_forall₂ alike one before)
  exact List.rel_reverse (inserted .nil)

end

end ResourceServer
