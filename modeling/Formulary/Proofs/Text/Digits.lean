import Mathlib.Data.List.Basic
import Mathlib.Tactic.ByContra
import Formulary.Text.Digit

/-!
# Digits of all scripts

A digit of any script has one of the ten values, so an ASCII digit can stand for it. The digits that
a number is written with have its value.
-/

namespace Formulary.Text

/-- A decimal digit of any script. -/
def IsDigit (c : Char) : Prop :=
  (digitValue? c).isSome

instance : DecidablePred IsDigit :=
  fun c => inferInstanceAs (Decidable ((digitValue? c).isSome = true))

variable {c : Char}

/-- The value of a digit is below ten. -/
theorem digitValue?_lt {d : Nat} (h : digitValue? c = some d) : d < 10 := by
  obtain ⟨z, hz, rfl⟩ := Option.map_eq_some_iff.mp h
  have hrange := List.find?_some hz
  simp only [Bool.and_eq_true, decide_eq_true_eq] at hrange
  omega

/-- What stands for a digit is an ASCII digit. -/
theorem IsDigit.isAsciiDigit (h : IsDigit c) : isAsciiDigit (toAsciiDigit c) = true := by
  obtain ⟨d, hd⟩ := Option.isSome_iff_exists.mp h
  have hdigits : ∀ d < 10, Text.isAsciiDigit (Nat.digitChar d) = true := by decide
  rw [toAsciiDigit, hd]
  exact hdigits d (digitValue?_lt hd)

/-- There are ten ASCII digits, one for each value. -/
theorem exists_digitChar (h : isAsciiDigit c = true) : ∃ d < 10, Nat.digitChar d = c := by
  simp only [isAsciiDigit, Bool.and_eq_true, decide_eq_true_eq] at h
  have hleast : 0x30 ≤ c.toNat := UInt32.le_iff_toNat_le.mp h.1
  have hgreatest : c.toNat ≤ 0x39 := UInt32.le_iff_toNat_le.mp h.2
  have hdigits : ∀ d < 10, Nat.digitChar d = Char.ofNat (0x30 + d) := by decide
  refine ⟨c.toNat - 0x30, by omega, ?_⟩
  rw [hdigits _ (by omega), Nat.add_sub_cancel' hleast, Char.ofNat_toNat]

/-- The ASCII digits are among the digits. -/
theorem isDigit_of_isAsciiDigit (h : isAsciiDigit c = true) : IsDigit c := by
  have hdigits : ∀ d < 10, (digitValue? (Nat.digitChar d)).isSome := by decide
  obtain ⟨d, hd, rfl⟩ := exists_digitChar h
  exact hdigits d hd

/-- An ASCII digit stands for itself. -/
theorem toAsciiDigit_of_isAsciiDigit (h : isAsciiDigit c = true) : toAsciiDigit c = c := by
  have hdigits : ∀ d < 10, toAsciiDigit (Nat.digitChar d) = Nat.digitChar d := by decide
  obtain ⟨d, hd, rfl⟩ := exists_digitChar h
  exact hdigits d hd

/-- What is no digit is left alone. -/
theorem toAsciiDigit_of_not_isDigit (h : ¬ IsDigit c) : toAsciiDigit c = c := by
  have hnone : digitValue? c = none := Option.not_isSome_iff_eq_none.mp h
  rw [toAsciiDigit, hnone]

/-- What is no digit of any script is no ASCII digit. -/
theorem isAsciiDigit_eq_false_of_not_isDigit (h : ¬ IsDigit c) : isAsciiDigit c = false :=
  Bool.eq_false_iff.mpr fun hdigit => h (isDigit_of_isAsciiDigit hdigit)

theorem not_isDigit_underscore : ¬ IsDigit '_' := by decide

/-- Nothing but a digit becomes an ASCII digit. -/
theorem isAsciiDigit_toAsciiDigit_iff : isAsciiDigit (toAsciiDigit c) = true ↔ IsDigit c := by
  refine ⟨fun h => ?_, IsDigit.isAsciiDigit⟩
  by_contra hc
  rw [toAsciiDigit_of_not_isDigit hc, isAsciiDigit_eq_false_of_not_isDigit hc] at h
  exact Bool.false_ne_true h

theorem IsDigit.ne_underscore (h : IsDigit c) : c ≠ '_' := by
  rintro rfl
  exact not_isDigit_underscore h

/-- No digit becomes a separator. -/
theorem IsDigit.toAsciiDigit_ne_underscore (h : IsDigit c) : toAsciiDigit c ≠ '_' := by
  intro hc
  have hdigit := h.isAsciiDigit
  rw [hc] at hdigit
  exact absurd hdigit (by decide)

/-- Digits have no other case. -/
theorem IsDigit.toLower (h : IsDigit c) : c.toLower = c := by
  have hletters : ∀ n < 91, 65 ≤ n → ¬ ∃ z ∈ digitZeros, z ≤ n ∧ n < z + 10 := by decide
  have hupper : ¬ (c.val ≥ 'A'.val ∧ c.val ≤ 'Z'.val) := by
    rintro ⟨hleast, hgreatest⟩
    rw [ge_iff_le, UInt32.le_iff_toNat_le] at hleast
    rw [UInt32.le_iff_toNat_le] at hgreatest
    refine hletters c.toNat (Nat.lt_succ_of_le hgreatest) hleast ?_
    rw [IsDigit, digitValue?, Option.isSome_map, List.find?_isSome] at h
    simpa using h
  exact dif_neg hupper

/-- The digits that a number is written with have its value. -/
theorem digitsValue_toDigits (n : Nat) : digitsValue (Nat.toDigits 10 n) = n := by
  have hvalue : Nat.ofDigitChars 10 (Nat.toDigits 10 n) 0 = n := Nat.ofDigitChars_ten_toDigits
  rwa [Nat.ofDigitChars_eq_foldl] at hvalue

/-- A number is written with ASCII digits only. -/
theorem isAsciiDigit_of_mem_toDigits {n : Nat} (hc : c ∈ Nat.toDigits 10 n) :
    isAsciiDigit c = true :=
  Nat.isDigit_of_mem_toDigits (by decide) (by decide) hc

end Formulary.Text
