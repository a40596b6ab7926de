/-! # Strictly increasing lists

Sets and maps are held as strictly increasing lists, so that two of them with the same members
are the same list.
-/

namespace Bindery.Ordered

variable {α κ β : Type}

/-- Puts an element at its place, or in the place of an equal one. -/
def insert (cmp : α → α → Ordering) (a : α) : List α → List α
  | [] => [a]
  | b :: bs =>
    match cmp a b with
    | .lt => a :: b :: bs
    | .eq => a :: bs
    | .gt => b :: insert cmp a bs

/-- The increasing list of the members of a list, of equal ones the first. -/
def ofList (cmp : α → α → Ordering) (as : List α) : List α := as.foldr (insert cmp) []

/-- Changes the value at a key, which is put at its place when it is new. -/
def alter (cmp : κ → κ → Ordering) (k : κ) (f : Option β → β) : List (κ × β) → List (κ × β)
  | [] => [(k, f none)]
  | p :: ps =>
    match cmp k p.1 with
    | .lt => (k, f none) :: p :: ps
    | .eq => (p.1, f (some p.2)) :: ps
    | .gt => p :: alter cmp k f ps

/-- The value at a key. -/
def find? (cmp : κ → κ → Ordering) (k : κ) (ps : List (κ × β)) : Option β :=
  (ps.find? fun p => cmp k p.1 == .eq).map (·.2)

end Bindery.Ordered
