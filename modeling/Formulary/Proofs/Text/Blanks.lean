import Formulary.Text.Blank
import Formulary.Proofs.Text.Spans

/-!
# Texts with blanks around them

Blanks that are put around a text come off again, and nothing else does if the text neither begins
nor ends with a blank.
-/

namespace Formulary.Text

/-- The text neither begins nor ends with a blank. -/
def Trimmed (cs : List Char) : Prop :=
  (∀ c ∈ cs.head?, isBlank c = false) ∧ ∀ c ∈ cs.getLast?, isBlank c = false

variable {cs blanks blanks' : List Char}

/-- A text is trimmed if its first and its last character are not blank. -/
theorem trimmed_of_ends {first last : Char} (hfirst : cs.head? = some first)
    (hlast : cs.getLast? = some last) (hblank : isBlank first = false)
    (hblank' : isBlank last = false) : Trimmed cs := by
  simp [Trimmed, hfirst, hlast, hblank, hblank']

/-- Reading backwards does not change whether a text is all blank. -/
theorem allBlank_reverse (cs : List Char) : allBlank cs.reverse = allBlank cs :=
  List.all_reverse

/-- Blanks that are put behind a text come off its end again. -/
theorem stripEnd_append (hblanks : allBlank blanks = true)
    (hcs : ∀ c ∈ cs.getLast?, isBlank c = false) : stripEnd (cs ++ blanks) = cs := by
  have hreverse : allBlank blanks.reverse = true := by rwa [allBlank_reverse]
  have hlast : ∀ c ∈ cs.reverse.head?, isBlank c = false := by rwa [List.head?_reverse]
  rw [stripEnd, List.reverse_append, dropWhile_append_rest (List.all_eq_true.mp hreverse) hlast,
    List.reverse_reverse]

/-- Blanks around a text come off. -/
theorem strip_append (hblanks : allBlank blanks = true) (hblanks' : allBlank blanks' = true)
    (hcs : Trimmed cs) : strip (blanks ++ cs ++ blanks') = cs := by
  cases cs with
  | nil =>
    rw [List.append_nil, strip_eq_nil_iff, allBlank, List.all_append]
    exact Bool.and_eq_true_iff.mpr ⟨hblanks, hblanks'⟩
  | cons c cs =>
    rw [List.append_assoc, strip, dropWhile_append_rest (List.all_eq_true.mp hblanks),
      stripEnd_append hblanks' hcs.2]
    exact hcs.1

end Formulary.Text
