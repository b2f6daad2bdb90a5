/-!
# Blank characters

The white space of Unicode text, and the trimming built on it. A blank separates tokens and
surrounds names and numbers; it never carries meaning of its own.
-/

namespace Formulary.Text

/-- The code points of the blank characters, as closed ranges in ascending order: the control
characters that move the cursor, the four information separators, and the separators of the
Unicode space, line and paragraph classes. -/
def blankRanges : List (Nat × Nat) :=
  [(0x09, 0x0D), (0x1C, 0x20), (0x85, 0x85), (0xA0, 0xA0), (0x1680, 0x1680), (0x2000, 0x200A),
    (0x2028, 0x2029), (0x202F, 0x202F), (0x205F, 0x205F), (0x3000, 0x3000)]

/-- A character is blank when its code point is in one of the `blankRanges`. -/
def isBlank (c : Char) : Bool :=
  blankRanges.any fun r => r.1 ≤ c.toNat && c.toNat ≤ r.2

/-- A text that holds nothing but blanks, the empty text included. -/
def allBlank (cs : List Char) : Bool :=
  cs.all isBlank

/-- A text without the blanks at its end. -/
def stripEnd (cs : List Char) : List Char :=
  (cs.reverse.dropWhile isBlank).reverse

/-- Drops the blanks at both ends and keeps the inner ones. -/
def strip (cs : List Char) : List Char :=
  stripEnd (cs.dropWhile isBlank)

/-- There is nothing behind the blanks in front of a text exactly if it is all blank. -/
theorem dropWhile_isBlank_eq_nil_iff {cs : List Char} :
    cs.dropWhile isBlank = [] ↔ allBlank cs = true := by
  induction cs with
  | nil => simp [allBlank]
  | cons c r ih => cases h : isBlank c <;> simp_all [allBlank]

/-- Whether a text is all blank does not depend on the blanks in front of it. -/
theorem allBlank_dropWhile {cs : List Char} :
    allBlank (cs.dropWhile isBlank) = allBlank cs := by
  induction cs with
  | nil => rfl
  | cons c r ih => cases h : isBlank c <;> simp_all [allBlank]

/-- A stripped text is empty exactly if the text is all blank. -/
theorem strip_eq_nil_iff {cs : List Char} : strip cs = [] ↔ allBlank cs = true := by
  have hrev : ∀ ds : List Char, allBlank ds.reverse = allBlank ds := fun ds => by simp [allBlank]
  rw [strip, stripEnd, List.reverse_eq_nil_iff, dropWhile_isBlank_eq_nil_iff, hrev,
    allBlank_dropWhile]

end Formulary.Text
