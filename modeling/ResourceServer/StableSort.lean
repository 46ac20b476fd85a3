/-! Sorting that keeps equal items in order. -/

namespace ResourceServer

variable {α : Type}

/-- Puts an item behind all items that it is not less than, in a list whose last item comes first. -/
def insertBack (compare : α → α → Ordering) (item : α) : List α → List α
  | [] => [item]
  | last :: rest =>
    if compare item last = .lt then last :: insertBack compare item rest else item :: last :: rest

/-- Sorts by inserting one item after another; equal items keep their order. -/
def stableSort (compare : α → α → Ordering) (items : List α) : List α :=
  (items.foldl (fun sorted item => insertBack compare item sorted) []).reverse

end ResourceServer
