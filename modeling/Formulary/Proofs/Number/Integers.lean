import Mathlib.Tactic.SplitIfs
import Formulary.Number.Text
import Formulary.Proofs.Text.Digits
import Formulary.Proofs.Text.Spans

/-!
# The texts of integers

An integer is written with its digits and, if it is negative, a minus in front of them.
-/

namespace Formulary

open Text

/-- The sign that an integer is written with. -/
def signOf (n : Int) : List Char :=
  if n < 0 then ['-'] else []

/-- A natural number is written with its digits alone. -/
theorem integerText_natCast (n : Nat) : integerText n = String.ofList (Nat.toDigits 10 n) :=
  Nat.repr_eq_ofList_toDigits

/-- A negative integer is written with a minus in front of its digits. -/
theorem integerText_neg_natCast {n : Nat} (hn : 0 < n) :
    integerText (-n) = "-" ++ String.ofList (Nat.toDigits 10 n) := by
  obtain ⟨k, rfl⟩ := Nat.exists_eq_succ_of_ne_zero (Nat.ne_of_gt hn)
  rw [← Nat.repr_eq_ofList_toDigits]
  rfl

/-- The text of an integer is its sign followed by the digits of its absolute value. -/
theorem toList_integerText (n : Int) :
    (integerText n).toList = signOf n ++ Nat.toDigits 10 n.natAbs := by
  by_cases hn : n < 0
  · obtain ⟨k, rfl⟩ : ∃ k : Nat, n = -k := ⟨n.natAbs, by omega⟩
    rw [integerText_neg_natCast (by omega), signOf, if_pos hn, Int.natAbs_neg, Int.natAbs_natCast]
    simp
  · obtain ⟨k, rfl⟩ := Int.eq_ofNat_of_zero_le (Int.not_lt.mp hn)
    rw [integerText_natCast, signOf, if_neg hn, Int.natAbs_natCast, String.toList_ofList,
      List.nil_append]

/-- The text of an integer holds digits and perhaps a minus. -/
theorem mem_integerText {n : Int} {c : Char} (hc : c ∈ (integerText n).toList) :
    isAsciiDigit c = true ∨ c = '-' := by
  rw [toList_integerText] at hc
  rcases List.mem_append.mp hc with hc | hc
  · unfold signOf at hc
    split at hc
    · exact .inr (List.mem_singleton.mp hc)
    · cases hc
  · exact .inl (isAsciiDigit_of_mem_toDigits hc)

/-- No digit is a minus. -/
theorem minus_not_mem_toDigits (n : Nat) : '-' ∉ Nat.toDigits 10 n :=
  fun h => absurd (isAsciiDigit_of_mem_toDigits h) (by decide)

/-- No two integers have the same text. -/
theorem integerText_injective {m n : Int} (h : integerText m = integerText n) : m = n := by
  have hchars := congrArg String.toList h
  rw [toList_integerText, toList_integerText, signOf, signOf] at hchars
  have hvalue {j k : Nat} (h : Nat.toDigits 10 j = Nat.toDigits 10 k) : j = k := by
    rw [← digitsValue_toDigits j, h, digitsValue_toDigits]
  split_ifs at hchars with hm hn hn
  · have habs := hvalue (List.cons.inj hchars).2
    omega
  · refine absurd ?_ (minus_not_mem_toDigits n.natAbs)
    rw [List.nil_append] at hchars
    exact hchars ▸ List.mem_cons_self
  · refine absurd ?_ (minus_not_mem_toDigits m.natAbs)
    rw [List.nil_append] at hchars
    exact hchars ▸ List.mem_cons_self
  · have habs := hvalue hchars
    omega

/-- Where the text of an integer ends can be told from what follows it. -/
theorem integerText_append_inj {m n : Int} {xs ys : List Char}
    (hxs : ∀ c ∈ xs.head?, isAsciiDigit c = false ∧ c ≠ '-')
    (hys : ∀ c ∈ ys.head?, isAsciiDigit c = false ∧ c ≠ '-')
    (h : (integerText m).toList ++ xs = (integerText n).toList ++ ys) : m = n ∧ xs = ys := by
  have hfront : ∀ k : Int, ∀ c ∈ (integerText k).toList,
      decide (isAsciiDigit c = true ∨ c = '-') = true :=
    fun _ _ hc => decide_eq_true (mem_integerText hc)
  have hstop {zs : List Char} (hzs : ∀ c ∈ zs.head?, isAsciiDigit c = false ∧ c ≠ '-') :
      ∀ c ∈ zs.head?, decide (isAsciiDigit c = true ∨ c = '-') = false := by
    intro c hc
    simp [hzs c hc]
  obtain ⟨htext, hrest⟩ := append_inj_of_front (hfront m) (hfront n) (hstop hxs) (hstop hys) h
  exact ⟨integerText_injective (String.toList_inj.mp htext), hrest⟩

end Formulary
