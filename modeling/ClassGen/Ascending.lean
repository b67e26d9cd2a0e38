/-
# Ascending lists

A set is shown as the list of its members in strictly ascending order.  Members that the order
does not tell apart count as one.
-/

namespace ClassGen.Ascending

variable {α : Type}

/-- The ascending list with one more member, unless it is there already. -/
def insert (lt : α → α → Bool) (a : α) : List α → List α
  | [] => [a]
  | b :: bs =>
    if lt a b then a :: b :: bs else if lt b a then b :: insert lt a bs else b :: bs

/-- The members of a list in ascending order, each of them once. -/
def ofList (lt : α → α → Bool) (as : List α) : List α :=
  as.foldr (insert lt) []

end ClassGen.Ascending
