import Mathlib.Data.List.Basic
import Mathlib.Data.List.TakeDrop

/-!
# Where the front of a text ends

A text whose front holds characters of one kind only, and whose rest does not begin with such a
character, falls apart in one way.
-/

namespace Formulary.Text

variable {p : Char → Bool} {front front' rest rest' : List Char}

/-- Taking characters of the kind of the front stops where the front ends. -/
theorem takeWhile_append_rest (hfront : ∀ c ∈ front, p c = true)
    (hrest : ∀ c ∈ rest.head?, p c = false) : (front ++ rest).takeWhile p = front := by
  rw [List.takeWhile_append_of_pos hfront]
  cases rest with
  | nil => simp
  | cons c rest => simp [hrest c rfl]

/-- Dropping characters of the kind of the front leaves the rest. -/
theorem dropWhile_append_rest (hfront : ∀ c ∈ front, p c = true)
    (hrest : ∀ c ∈ rest.head?, p c = false) : (front ++ rest).dropWhile p = rest := by
  rw [List.dropWhile_append_of_pos hfront]
  cases rest with
  | nil => rfl
  | cons c rest => exact List.dropWhile_cons_of_neg (by simp [hrest c rfl])

/-- A text falls apart where its front ends. -/
theorem span_append_rest (hfront : ∀ c ∈ front, p c = true)
    (hrest : ∀ c ∈ rest.head?, p c = false) : (front ++ rest).span p = (front, rest) := by
  rw [List.span_eq_takeWhile_dropWhile, takeWhile_append_rest hfront hrest,
    dropWhile_append_rest hfront hrest]

/-- Two texts with a front of one kind that are the same have the same front and the same rest. -/
theorem append_inj_of_front (hfront : ∀ c ∈ front, p c = true) (hfront' : ∀ c ∈ front', p c = true)
    (hrest : ∀ c ∈ rest.head?, p c = false) (hrest' : ∀ c ∈ rest'.head?, p c = false)
    (h : front ++ rest = front' ++ rest') : front = front' ∧ rest = rest' := by
  have hspan := congrArg (List.span p) h
  rw [span_append_rest hfront hrest, span_append_rest hfront' hrest'] at hspan
  exact Prod.mk.inj hspan

end Formulary.Text
