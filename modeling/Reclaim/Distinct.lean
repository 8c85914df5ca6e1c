/-!
# First of each kind

Items that count as the same when their **keys** are equal, in a list: of each kind only the first
stays, as it was written, and the order of those that stay is theirs in the list.
-/

namespace Reclaim

/-- **The first item of each key**, in the order of the list. -/
def distinctBy {α κ : Type} [DecidableEq κ] (key : α → κ) : List α → List α
  | [] => []
  | x :: rest => x :: (distinctBy key rest).filter fun y => key y ≠ key x

/-- The items that are there, each once. -/
def distinctPresent {α : Type} [DecidableEq α] (items : List (Option α)) : List α :=
  distinctBy id (items.filterMap id)

end Reclaim
