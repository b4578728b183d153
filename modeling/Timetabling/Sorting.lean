/-!
# Stable sorting

A merge sort that the kernel can evaluate. It agrees with the standard library's stable merge sort,
so what is known about that one holds of it.
-/

namespace Timetabling.Sorting

variable {α : Type}

/-- Merges a list that starts with the given item into another one; the rest of the first list is
merged by the given function. -/
def mergeFrom (le : α → α → Bool) (x : α) (xs : List α) (rest : List α → List α) : List α → List α
  | [] => x :: xs
  | y :: ys => if le x y then x :: rest (y :: ys) else y :: mergeFrom le x xs rest ys

def merge (le : α → α → Bool) : List α → List α → List α
  | [] => fun ys => ys
  | x :: xs => mergeFrom le x xs (merge le xs)

def middle (xs : List α) : Nat :=
  (xs.length + 1) / 2

/-- Sorts a list by halves; the bound on the depth is never reached where it is the length. -/
def sortWithin (le : α → α → Bool) : Nat → List α → List α
  | 0, xs => xs
  | bound + 1, xs =>
    if xs.length < 2 then xs
    else
      merge le (sortWithin le bound (xs.take (middle xs)))
        (sortWithin le bound (xs.drop (middle xs)))

theorem mergeFrom_eq (le : α → α → Bool) (x : α) (xs ys : List α) :
    mergeFrom le x xs (fun zs => List.merge xs zs le) ys = List.merge (x :: xs) ys le := by
  induction ys with
  | nil => simp [mergeFrom]
  | cons y ys ih =>
    rw [mergeFrom, List.cons_merge_cons]
    split
    · rfl
    · rw [ih]

theorem merge_eq (le : α → α → Bool) (xs : List α) :
    merge le xs = fun ys => List.merge xs ys le := by
  induction xs with
  | nil => funext ys; simp [merge]
  | cons x xs ih => funext ys; rw [merge, ih, mergeFrom_eq]

theorem sortWithin_eq (le : α → α → Bool) (bound : Nat) (xs : List α) (h : xs.length ≤ bound) :
    sortWithin le bound xs = xs.mergeSort le := by
  induction bound generalizing xs with
  | zero =>
    have hnil : xs = [] := by simpa using h
    simp [hnil, sortWithin]
  | succ bound ih =>
    match xs with
    | [] => simp [sortWithin]
    | [x] => simp [sortWithin]
    | x :: y :: zs =>
      have hlong : ¬(x :: y :: zs).length < 2 := by simp
      rw [sortWithin, if_neg hlong, List.mergeSort, merge_eq]
      simp only [middle, List.MergeSort.Internal.splitInTwo_fst,
        List.MergeSort.Internal.splitInTwo_snd]
      rw [ih _ (by simp only [List.length_take, List.length_cons] at *; omega),
        ih _ (by simp only [List.length_drop, List.length_cons] at *; omega)]

end Sorting

variable {α : Type}

/-- The items in order; equal items keep their order. -/
def stableSort (le : α → α → Bool) (xs : List α) : List α :=
  Sorting.sortWithin le xs.length xs

theorem stableSort_eq_mergeSort (le : α → α → Bool) (xs : List α) :
    stableSort le xs = xs.mergeSort le :=
  Sorting.sortWithin_eq le xs.length xs (Nat.le_refl _)

end Timetabling
