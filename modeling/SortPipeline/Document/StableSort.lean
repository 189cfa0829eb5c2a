/-! Stable sorting. Items go one by one into a list that is kept in descending order; each passes
the items it is strictly less than, and stops at the first other. -/

universe u

namespace SortPipeline.StableSort

variable {α : Type u}

def insert (less : α → α → Bool) (x : α) : List α → List α
  | [] => [x]
  | y :: ys => if less x y then y :: insert less x ys else x :: y :: ys

def insertAll (less : α → α → Bool) (sorted : List α) (xs : List α) : List α :=
  xs.foldl (fun ys x => insert less x ys) sorted

def sort (less : α → α → Bool) (xs : List α) : List α := (insertAll less [] xs).reverse

theorem insert_perm (less : α → α → Bool) (x : α) (ys : List α) :
    (insert less x ys).Perm (x :: ys) := by
  induction ys with
  | nil => exact .refl _
  | cons y ys ih =>
    simp only [insert]
    split
    · exact (ih.cons y).trans (.swap x y ys)
    · exact .refl _

theorem insertAll_perm (less : α → α → Bool) (sorted xs : List α) :
    (insertAll less sorted xs).Perm (sorted ++ xs) := by
  induction xs generalizing sorted with
  | nil => simp [insertAll]
  | cons x xs ih =>
    refine (ih (insert less x sorted)).trans ?_
    refine ((insert_perm less x sorted).append_right xs).trans ?_
    exact List.perm_middle.symm

theorem sort_perm (less : α → α → Bool) (xs : List α) : (sort less xs).Perm xs :=
  (List.reverse_perm _).trans (by simpa using insertAll_perm less [] xs)

end SortPipeline.StableSort
