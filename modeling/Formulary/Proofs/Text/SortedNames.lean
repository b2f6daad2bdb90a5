import Mathlib.Data.List.Sort
import Mathlib.Data.String.Basic
import Formulary.Text.Names

/-!
# Sorted names are canonical

The sorted names of a list ascend strictly, so they depend on nothing but which names there are.
-/

namespace Formulary.Text

/-- Inserting a name keeps a list strictly ascending. -/
theorem pairwise_insertName {name : String} {ns : List String} (h : ns.Pairwise (· < ·)) :
    (insertName name ns).Pairwise (· < ·) := by
  induction ns with
  | nil => exact List.pairwise_singleton _ _
  | cons n ns ih =>
    obtain ⟨hn, hns⟩ := List.pairwise_cons.mp h
    unfold insertName
    split
    · exact h
    · next hne =>
      split
      · next hlt =>
        refine List.pairwise_cons.mpr ⟨fun x hx => ?_, h⟩
        rcases List.mem_cons.mp hx with rfl | hx
        · exact hlt
        · exact hlt.trans (hn x hx)
      · next hnot =>
        refine List.pairwise_cons.mpr ⟨fun x hx => ?_, ih hns⟩
        rcases mem_insertName.mp hx with rfl | hx
        · exact lt_of_le_of_ne (not_lt.mp hnot) (Ne.symm hne)
        · exact hn x hx

/-- Sorted names ascend strictly, so none of them is there twice. -/
theorem pairwise_sortedNames (names : List String) : (sortedNames names).Pairwise (· < ·) := by
  induction names with
  | nil => exact List.Pairwise.nil
  | cons name names ih => exact pairwise_insertName ih

/-- Sorting loses no name, so some names stay some names. -/
theorem sortedNames_ne_nil {names : List String} (h : names ≠ []) : sortedNames names ≠ [] := by
  obtain ⟨name, hname⟩ := List.exists_mem_of_ne_nil names h
  exact List.ne_nil_of_mem (mem_sortedNames.mpr hname)

/-- Lists of the same names have the same sorted names, however often and in whatever order the
names are in them. -/
theorem sortedNames_congr {names names' : List String} (h : ∀ x, x ∈ names ↔ x ∈ names') :
    sortedNames names = sortedNames names' := by
  apply (pairwise_sortedNames names).eq_of_mem_iff (pairwise_sortedNames names')
  intro x
  rw [mem_sortedNames, mem_sortedNames, h]

/-- The names of two parts can be sorted part by part first. -/
theorem sortedNames_append (names names' : List String) :
    sortedNames (sortedNames names ++ sortedNames names') = sortedNames (names ++ names') := by
  apply sortedNames_congr
  intro x
  rw [List.mem_append, List.mem_append, mem_sortedNames, mem_sortedNames]

end Formulary.Text
