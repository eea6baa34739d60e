/-!
# Sorting by name

Elements are put in the order of their names. Elements of one name keep their order.
-/

namespace Scribe

variable {α κ : Type} [LE κ] [DecidableLE κ]

/-- Puts an element before the first one with a name that is not smaller. -/
def insertByName (name : α → κ) (a : α) : List α → List α
  | [] => [a]
  | b :: rest =>
    if name a ≤ name b then a :: b :: rest else b :: insertByName name a rest

/-- Elements in the order of their names. -/
def sortByName (name : α → κ) : List α → List α
  | [] => []
  | a :: rest => insertByName name a (sortByName name rest)

end Scribe
