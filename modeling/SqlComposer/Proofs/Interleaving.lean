import Mathlib.Data.List.Basic

/-!
# Interleavings of two lists

A list interleaves two others if it has the elements of both, each list in its own order, and
nothing else. Values of two sources that are put side by side stand in this relation to what
comes out, and so do the steps of two tasks to the steps of both.
-/

set_option autoImplicit false

namespace SqlComposer

/-- A list with the elements of two lists, those of each in their order. -/
inductive Interleaved {α : Type} : List α → List α → List α → Prop
  | nil : Interleaved [] [] []
  | left {x : α} {xs ys zs : List α} (h : Interleaved xs ys zs) :
      Interleaved (x :: xs) ys (x :: zs)
  | right {y : α} {xs ys zs : List α} (h : Interleaved xs ys zs) :
      Interleaved xs (y :: ys) (y :: zs)

namespace Interleaved

variable {α : Type} {xs ys zs : List α}

/-- One list after the other. -/
theorem inRow (xs ys : List α) : Interleaved xs ys (xs ++ ys) := by
  induction xs with
  | nil =>
    induction ys with
    | nil => exact .nil
    | cons y ys ih => exact ih.right
  | cons x xs ih => exact ih.left

theorem eq_left (h : Interleaved xs [] zs) : zs = xs := by
  generalize hys : ([] : List α) = ys at h
  induction h with
  | nil => rfl
  | left _ ih => rw [ih hys]
  | right _ _ => cases hys

theorem eq_right (h : Interleaved [] ys zs) : zs = ys := by
  generalize hxs : ([] : List α) = xs at h
  induction h with
  | nil => rfl
  | left _ _ => cases hxs
  | right _ ih => rw [ih hxs]

/-- Nothing is lost and nothing comes twice. -/
theorem perm (h : Interleaved xs ys zs) : zs.Perm (xs ++ ys) := by
  induction h with
  | nil => exact .refl []
  | left _ ih => exact ih.cons _
  | right _ ih => exact (ih.cons _).trans List.perm_middle.symm

/-- The elements with a property are those of either list. -/
theorem filter (h : Interleaved xs ys zs) (p : α → Bool) :
    Interleaved (xs.filter p) (ys.filter p) (zs.filter p) := by
  induction h with
  | nil => exact .nil
  | @left x xs ys zs _ ih =>
    by_cases hx : p x
    · simpa [hx] using ih.left
    · simpa [hx] using ih
  | @right y xs ys zs _ ih =>
    by_cases hy : p y
    · simpa [hy] using ih.right
    · simpa [hy] using ih

end Interleaved

end SqlComposer
