import Mathlib.Algebra.Order.Floor.Semiring
import Mathlib.Data.Rat.Floor
import ResourceServer.Number.Reading
import ResourceServer.Proofs.PageDocuments

/-! The ranges of pages: they tile the collection, and no number that leads to them is out of bounds. -/

namespace ResourceServer.Paging

/-! Arithmetic on counts that stops where a result is none. -/

def plus? (left right : Nat) : Option Nat :=
  if left + right ≤ maxCount then some (left + right) else none

def minus? (left right : Nat) : Option Nat :=
  if right ≤ left then some (left - right) else none

def over? (left right : Nat) : Option Nat :=
  if 0 < right then some (left / right) else none

theorem plus_some {left right : Nat} (small : left + right ≤ maxCount) :
    plus? left right = some (left + right) :=
  if_pos small

theorem minus_some {left right : Nat} (below : right ≤ left) : minus? left right = some (left - right) :=
  if_pos below

theorem over_some {left right : Nat} (positive : 0 < right) : over? left right = some (left / right) :=
  if_pos positive

def pageCount? (total size : Nat) : Option Nat :=
  if total = 0 then some 1
  else do
    let sum ← plus? total size
    let raised ← minus? sum 1
    over? raised size

/-- The numbers of a page and of those around it, one operation after another. -/
def paginate? (total : Nat) (request : PageRequest) : Option Page :=
  if request.isPaginated then do
    let last ← pageCount? total request.size
    let previous ← if 1 < request.number then (minus? request.number 1).map some else some none
    let next ← if request.number < last then (plus? request.number 1).map some else some none
    some
      { number := request.number
        size := request.size
        total := total
        first := some 1
        last := some last
        previous := previous
        next := next }
  else some ⟨1, 0, total, none, none, none, none⟩

/-- The positions of a page's rows, one operation after another. Products and sums are cut off at the largest count,
so that only the difference can fail. -/
def Page.range? (page : Page) : Option (Nat × Nat) :=
  if page.size = 0 then some (0, page.total)
  else do
    let before ← minus? page.number 1
    let start := min (min (before * page.size) maxCount) page.total
    some (start, min (min (start + page.size) maxCount) page.total)

def Page.positions (page : Page) : List Nat :=
  List.range' page.range.1 (page.range.2 - page.range.1)

/-- The rows in a window, or all of them without one. -/
def inWindow {α : Type} (items : List α) : Option Window → List α
  | some window => (items.drop window.offset).take window.limit
  | none => items

section

variable {total size number : Nat}

theorem pageCount_le_iff (sized : 0 < size) (given : total ≠ 0) (count : Nat) :
    pageCount total size ≤ count ↔ total ≤ count * size := by
  unfold pageCount
  rw [if_neg given, Nat.div_le_iff_le_mul_add_pred sized, Nat.mul_comm]
  omega

theorem pageCount_eq_ceil (sized : 0 < size) :
    pageCount total size = if total = 0 then 1 else ⌈(total : ℚ) / size⌉₊ := by
  by_cases given : total = 0
  · simp [pageCount, given]
  · rw [if_neg given]
    apply eq_of_forall_ge_iff
    intro count
    have positive : (0 : ℚ) < size := by exact_mod_cast sized
    rw [pageCount_le_iff sized given, Nat.ceil_le, div_le_iff₀ positive]
    norm_cast

theorem page_end (counts : 0 < number) (size : Nat) : (number - 1) * size + size = number * size := by
  rw [← Nat.succ_mul, Nat.succ_eq_add_one, Nat.sub_add_cancel counts]

theorem range_page (sized : 0 < size) (counts : 0 < number) (countable : total ≤ maxCount) :
    (paginate total ⟨size, number⟩).range =
      (min ((number - 1) * size) total, min (number * size) total) := by
  simp only [Page.range, paginate, PageRequest.isPaginated, sized, decide_true, if_true, Nat.pos_iff_ne_zero.mp sized,
    if_false, ← page_end counts size, Prod.mk.injEq]
  omega

theorem positions_page (sized : 0 < size) (counts : 0 < number) (countable : total ≤ maxCount) :
    (paginate total ⟨size, number⟩).positions =
      List.range' (min ((number - 1) * size) total)
        (min (number * size) total - min ((number - 1) * size) total) := by
  rw [Page.positions, range_page sized counts countable]

theorem positions_pages (sized : 0 < size) (countable : total ≤ maxCount) (count : Nat) :
    (List.range' 1 count).flatMap (fun number => (paginate total ⟨size, number⟩).positions) =
      List.range (min (count * size) total) := by
  induction count with
  | zero => simp
  | succ count ih =>
      have next : 1 + 1 * count = count + 1 := by omega
      have grows : min (count * size) total ≤ min ((count + 1) * size) total := by
        rw [Nat.succ_mul]
        omega
      have meets := List.range'_append_1 (s := 0) (m := min (count * size) total)
        (n := min ((count + 1) * size) total - min (count * size) total)
      rw [Nat.zero_add, Nat.add_sub_cancel' grows] at meets
      rw [List.range'_concat, List.flatMap_append, ih, List.flatMap_singleton, next,
        positions_page sized (Nat.succ_pos count) countable, Nat.succ_sub_one, List.range_eq_range',
        List.range_eq_range', meets]

/-- The pages of one size, of which there are as many as the last one says, tile a collection. -/
structure Tiles (total size : Nat) : Prop where
  whole : (List.range' 1 (pageCount total size)).flatMap (fun number => (paginate total ⟨size, number⟩).positions) =
    List.range total
  small : ∀ number, 1 ≤ number → (paginate total ⟨size, number⟩).positions.length ≤ size
  filled : total ≠ 0 → ∀ number, 1 ≤ number → number ≤ pageCount total size →
    (paginate total ⟨size, number⟩).positions ≠ []
  spent : ∀ number, pageCount total size < number → (paginate total ⟨size, number⟩).positions = []

theorem tiles (sized : 0 < size) (countable : total ≤ maxCount) : Tiles total size where
  whole := by
    rw [positions_pages sized countable, Nat.min_eq_right (total_le_pages sized)]
  small := by
    intro number counts
    rw [positions_page sized counts countable, List.length_range', ← page_end counts size]
    omega
  filled := by
    intro given number counts within
    -- one page less would not hold all
    have before : (number - 1) * size < total := by
      apply Nat.lt_of_not_le
      intro enough
      have fewer := (pageCount_le_iff sized given (number - 1)).mpr enough
      omega
    rw [positions_page sized counts countable, List.ne_nil_iff_length_pos, List.length_range',
      ← page_end counts size]
    omega
  spent := by
    intro number beyond
    have enough : total ≤ pageCount total size * size := total_le_pages sized
    have before : pageCount total size * size ≤ (number - 1) * size :=
      Nat.mul_le_mul_right size (by omega)
    rw [positions_page sized (by omega) countable, List.range'_eq_nil_iff]
    omega

theorem slice_page {α : Type} (items : List α) (request : PageRequest) (counts : 0 < request.number)
    (countable : items.length ≤ maxCount) :
    (items.take (paginate items.length request).range.2).drop (paginate items.length request).range.1 =
      inWindow items request.window? := by
  obtain ⟨size, number⟩ := request
  by_cases sized : 0 < size
  · rw [range_page sized counts countable, List.drop_take, ← page_end counts size]
    simp only [inWindow, PageRequest.window?, PageRequest.isPaginated, PageRequest.offset, sized, decide_true, if_true]
    by_cases inside : (number - 1) * size ≤ items.length
    · rw [Nat.min_eq_left inside, Nat.min_eq_left (inside.trans countable), List.take_eq_take_iff, List.length_drop]
      omega
    · rw [List.drop_eq_nil_of_le (by omega), List.drop_eq_nil_of_le (by omega), List.take_nil, List.take_nil]
  · have whole : size = 0 := Nat.eq_zero_of_not_pos sized
    subst whole
    simp [paginate, PageRequest.isPaginated, Page.range, inWindow, PageRequest.window?]

theorem pageCount_some (sized : 0 < size) (sizes : (size : Int) ≤ Number.maxInteger)
    (countable : (total : Int) ≤ Number.maxInteger) : pageCount? total size = some (pageCount total size) := by
  unfold pageCount? pageCount
  by_cases given : total = 0
  · simp [given]
  · have small : total + size ≤ maxCount := by
      unfold Number.maxInteger at sizes countable
      unfold maxCount
      omega
    simp [given, plus_some small, minus_some (show 1 ≤ total + size by omega), over_some sized]

theorem paginate_some {request : PageRequest} (sizes : (request.size : Int) ≤ Number.maxInteger)
    (numbers : (request.number : Int) ≤ Number.maxInteger) (countable : (total : Int) ≤ Number.maxInteger) :
    paginate? total request = some (paginate total request) := by
  have small : request.number + 1 ≤ maxCount := by
    unfold Number.maxInteger at numbers
    unfold maxCount
    omega
  unfold paginate? paginate
  by_cases paginated : request.isPaginated
  · have counted := pageCount_some (of_decide_eq_true paginated) sizes countable
    by_cases later : 1 < request.number <;> by_cases more : request.number < pageCount total request.size <;>
      simp [paginated, counted, later, more, plus_some small, minus_some (Nat.le_of_lt _)]
  · simp [paginated]

theorem range_some {request : PageRequest} (counts : 0 < request.number) :
    (paginate total request).range? = some (paginate total request).range := by
  unfold Page.range? Page.range
  by_cases whole : (paginate total request).size = 0
  · simp [whole]
  · have numbered : 1 ≤ (paginate total request).number := by
      unfold paginate
      split
      · exact counts
      · exact Nat.le_refl 1
    simp [whole, minus_some numbered]

theorem make_bounds {size number : Int} {maximum : Nat} {request : PageRequest}
    (made : PageRequest.make size number maximum = .ok request) :
    request.size ≤ maximum ∧ (request.size : Int) = size ∧ 0 < request.number ∧
      (request.number : Int) = max number 1 := by
  unfold PageRequest.make at made
  split_ifs at made
  cases made
  dsimp only
  omega

end

/-- For a request that is accepted, nothing that leads to a page or its range leaves the 64-bit counts. The pages of
its size tile the collection, their number is the quotient rounded up, only the first has none before it and only the
last and those behind it have none after them, and what is in the range of a page is what is in the window. -/
theorem pages_tile_collection {size number : Int} {maximum total : Nat} {request : PageRequest}
    (sizes : size ≤ Number.maxInteger) (numbers : number ≤ Number.maxInteger)
    (countable : (total : Int) ≤ Number.maxInteger)
    (made : PageRequest.make size number maximum = .ok request) :
    paginate? total request = some (paginate total request) ∧
    (paginate total request).range? = some (paginate total request).range ∧
    (0 < request.size →
      (paginate total request).last = some (if total = 0 then 1 else ⌈(total : ℚ) / request.size⌉₊) ∧
      ((paginate total request).previous = none ↔ request.number = 1) ∧
      ((paginate total request).next = none ↔ ∃ last ≤ request.number, (paginate total request).last = some last) ∧
      (∀ page : Nat, 1 ≤ page → PageRequest.make request.size page maximum = .ok ⟨request.size, page⟩) ∧
      Tiles total request.size) ∧
    ∀ (α : Type) (items : List α), items.length = total →
      (items.take (paginate total request).range.2).drop (paginate total request).range.1 =
        inWindow items request.window? := by
  obtain ⟨allowed, sizeIs, counts, numberIs⟩ := make_bounds made
  have few : total ≤ maxCount := by
    unfold Number.maxInteger at countable
    unfold maxCount
    omega
  refine ⟨paginate_some (sizeIs ▸ sizes) ?_ countable, range_some counts, ?_, ?_⟩
  · rw [numberIs]
    unfold Number.maxInteger at numbers ⊢
    omega
  · intro sized
    have paginated : request.isPaginated = true := decide_eq_true sized
    refine ⟨?_, ?_, ?_, ?_, tiles sized few⟩
    · rw [← pageCount_eq_ceil sized]
      simp [paginate, paginated]
    · simp [paginate, paginated]
      omega
    · simp [paginate, paginated]
    · intro page counted
      exact make_page sized allowed counted
  · rintro α items rfl
    exact slice_page items request counts few

/-- The largest collection in pages of all its rows but one, and a page far behind them. -/
theorem largest_collection_has_two_pages :
    PageRequest.make 9223372036854775806 9223372036854775807 9223372036854775807 =
      .ok ⟨9223372036854775806, 9223372036854775807⟩ ∧
    (paginate? 9223372036854775807 ⟨9223372036854775806, 9223372036854775807⟩).bind Page.last = some 2 ∧
    Tiles 9223372036854775807 9223372036854775806 := by
  have made : PageRequest.make 9223372036854775806 9223372036854775807 9223372036854775807 =
      .ok ⟨9223372036854775806, 9223372036854775807⟩ := by decide
  have countable : ((9223372036854775807 : Nat) : Int) ≤ Number.maxInteger := by decide
  obtain ⟨counted, _, tiled, _⟩ := pages_tile_collection (by decide) (by decide) countable made
  refine ⟨made, ?_, (tiled (by decide)).2.2.2.2⟩
  rw [counted]
  rfl

end ResourceServer.Paging
