import Mathlib.Algebra.Group.Int.Defs
import Mathlib.Algebra.Group.Nat.Defs
import Formulary.Proofs.Expression.Exact

/-!
# The size of exact powers

Whether an integer power stays exact is decided before it is computed, by the length of the base
times the exponent. The power is never longer than that, but it may be little more than half as
long. So every power that is too long becomes a floating-point number, and so do some that are not.
-/

namespace Formulary

section Length

variable {a k n : Nat}

/-- A number is longer than `k` binary digits from `2 ^ k` on. -/
theorem lt_bitLength_iff : k < bitLength a ↔ 2 ^ k ≤ a := by
  unfold bitLength
  split
  · next ha => simp [ha]
  · next ha => rw [Nat.lt_succ_iff, Nat.le_log2 ha]

/-- A number has at most `k` binary digits below `2 ^ k`. -/
theorem bitLength_le_iff : bitLength a ≤ k ↔ a < 2 ^ k := by
  rw [← Nat.not_lt, lt_bitLength_iff, Nat.not_le]

/-- A power is no longer than its base times the exponent. -/
theorem bitLength_pow_le (a : Nat) (hn : 0 < n) : bitLength (a ^ n) ≤ bitLength a * n := by
  have ha : a < 2 ^ bitLength a := bitLength_le_iff.mp (Nat.le_refl _)
  rw [bitLength_le_iff, Nat.pow_mul]
  exact Nat.pow_lt_pow_left ha (Nat.ne_of_gt hn)

/-- A power that is estimated within a limit is no longer than the limit. -/
theorem bitLength_pow_le_of_le {limit : Nat} (hlimit : 0 < limit)
    (h : bitLength a * n ≤ limit) : bitLength (a ^ n) ≤ limit := by
  by_cases hn : n = 0
  · -- the power is one, whatever the base is
    rw [hn, Nat.pow_zero, bitLength_le_iff]
    exact Nat.one_lt_two_pow (Nat.ne_of_gt hlimit)
  · exact Nat.le_trans (bitLength_pow_le a (Nat.pos_of_ne_zero hn)) h

/-- A power is longer than its base, the highest digit left out, times the exponent. -/
theorem lt_bitLength_pow (ha : 0 < a) (n : Nat) : (bitLength a - 1) * n < bitLength (a ^ n) := by
  have hpos : 0 < bitLength a := lt_bitLength_iff.mpr ha
  have hle : 2 ^ (bitLength a - 1) ≤ a := lt_bitLength_iff.mp (by omega)
  rw [lt_bitLength_iff, Nat.pow_mul]
  exact Nat.pow_le_pow_left hle n

/-- A power of a base of at least two that is at most half as long as a limit, give or take a digit,
is estimated within the limit. -/
theorem bitLength_mul_le_of_pow {limit : Nat} (ha : 2 ≤ a)
    (hpow : bitLength (a ^ n) ≤ limit / 2 + 1) : bitLength a * n ≤ limit := by
  have hlong : 1 < bitLength a := lt_bitLength_iff.mpr ha
  have hlower := lt_bitLength_pow (Nat.lt_of_lt_of_le Nat.two_pos ha) n
  -- a length of at least two is at most twice itself less one
  have htwice : bitLength a * n ≤ 2 * ((bitLength a - 1) * n) := by
    rw [← Nat.mul_assoc]
    exact Nat.mul_le_mul_right n (by omega)
  omega

end Length

namespace Operator

variable {m n : Int}

/-- An integer power is exact if the length of the base times the exponent is within the limit. -/
theorem power_ints_of_le (hn : 0 ≤ n) (hsize : bitLength m.natAbs * n.toNat ≤ powerBitLimit) :
    power.apply (.int m) (.int n) = .ok (.int (m ^ n.toNat)) := by
  show Arithmetic.power (.int m) (.int n) = _
  rw [Arithmetic.power, if_pos ⟨hn, hsize⟩, Arithmetic.integerPower_eq]
  rfl

/-- Beyond the limit, the result is never an integer. -/
theorem power_ints_ne_int_of_lt (hsize : powerBitLimit < bitLength m.natAbs * n.toNat) (k : Int) :
    power.apply (.int m) (.int n) ≠ .ok (.int k) := by
  show Arithmetic.power (.int m) (.int n) ≠ _
  rw [Arithmetic.power, if_neg fun hexact => Nat.not_le.mpr hsize hexact.2]
  exact Arithmetic.powerByFloats_ne_int

/-- When an integer power is an integer, and which one. -/
theorem power_ints_eq_int_iff {k : Int} :
    power.apply (.int m) (.int n) = .ok (.int k) ↔
      0 ≤ n ∧ bitLength m.natAbs * n.toNat ≤ powerBitLimit ∧ k = m ^ n.toNat := by
  constructor
  · intro h
    have hpower : Arithmetic.power (.int m) (.int n) = .ok (.int k) := h
    obtain ⟨x, y, hx, hy, hn, hk⟩ := Arithmetic.power_eq_int hpower
    obtain rfl := Number.int.inj hx
    obtain rfl := Number.int.inj hy
    refine ⟨hn, ?_, hk.symm⟩
    by_contra hsize
    exact power_ints_ne_int_of_lt (Nat.not_le.mp hsize) k h
  · rintro ⟨hn, hsize, rfl⟩
    exact power_ints_of_le hn hsize

/-- A power of integers with a positive exponent is exact exactly if the length of the base times
the exponent is within the limit, and no integer at all otherwise. A power that is longer than the
limit is never exact. A power of a base of at least two is always exact up to half the limit. -/
theorem power_ints_exact_iff (hn : 0 < n) :
    (power.apply (.int m) (.int n) = .ok (.int (m ^ n.toNat)) ↔
      bitLength m.natAbs * n.toNat ≤ powerBitLimit) ∧
    (powerBitLimit < bitLength m.natAbs * n.toNat →
      ∀ k, power.apply (.int m) (.int n) ≠ .ok (.int k)) ∧
    (powerBitLimit < bitLength (m ^ n.toNat).natAbs →
      ∀ k, power.apply (.int m) (.int n) ≠ .ok (.int k)) ∧
    (2 ≤ m.natAbs → bitLength (m ^ n.toNat).natAbs ≤ powerBitLimit / 2 + 1 →
      power.apply (.int m) (.int n) = .ok (.int (m ^ n.toNat))) := by
  have hpos : 0 < n.toNat := by omega
  refine ⟨⟨fun hexact => ?_, power_ints_of_le (Int.le_of_lt hn)⟩, power_ints_ne_int_of_lt,
    fun hlong => ?_, fun hm hshort => ?_⟩
  · by_contra hsize
    exact power_ints_ne_int_of_lt (Nat.not_le.mp hsize) _ hexact
  · refine power_ints_ne_int_of_lt (Nat.lt_of_lt_of_le hlong ?_)
    rw [Int.natAbs_pow]
    exact bitLength_pow_le _ hpos
  · rw [Int.natAbs_pow] at hshort
    exact power_ints_of_le (Int.le_of_lt hn) (bitLength_mul_le_of_pow hm hshort)

/-- A power of `-2` half as long as the limit is exact, and a power of three just behind it is
not. -/
theorem power_ints_exact_iff_half :
    bitLength ((-2) ^ 2048 : Int).natAbs = 2049 ∧
      power.apply (.int (-2)) (.int 2048) = .ok (.int ((-2) ^ 2048)) ∧
      ∀ k, power.apply (.int 3) (.int 2049) ≠ .ok (.int k) := by
  have hlength : bitLength ((-2) ^ 2048 : Int).natAbs = 2049 := by decide +kernel
  have hshort : bitLength ((-2) ^ 2048 : Int).natAbs ≤ powerBitLimit / 2 + 1 := by
    rw [hlength]
    decide
  obtain ⟨-, -, -, hhalf⟩ := power_ints_exact_iff (m := -2) (n := 2048) (by decide)
  obtain ⟨-, hover, -, -⟩ := power_ints_exact_iff (m := 3) (n := 2049) (by decide)
  exact ⟨hlength, hhalf (by decide) hshort, hover (by decide)⟩

/-- A power that is within the limit, but not within half of it, need not be exact. -/
theorem power_two_inexact :
    bitLength (2 ^ 2049) = 2050 ∧ 2050 ≤ powerBitLimit ∧
      ∀ k, power.apply (.int 2) (.int 2049) ≠ .ok (.int k) :=
  ⟨by decide +kernel, by decide, power_ints_ne_int_of_lt (by decide)⟩

/-- A power of integers is an integer exactly if the exponent is zero, or if it is positive and the
length of the base times the exponent is at most 4096. The integer is then the power itself, and it
has at most 4096 binary digits, however large the base and the exponent are. -/
theorem power_ints_bounded (m n : Int) :
    ((∃ k, power.apply (.int m) (.int n) = .ok (.int k)) ↔
      n = 0 ∨ 0 < n ∧ bitLength m.natAbs * n.toNat ≤ 4096) ∧
    ∀ k, power.apply (.int m) (.int n) = .ok (.int k) →
      0 ≤ n ∧ k = m ^ n.toNat ∧ k.natAbs < 2 ^ 4096 ∧ bitLength k.natAbs ≤ 4096 := by
  refine ⟨⟨?_, fun hexact => ?_⟩, fun k hk => ?_⟩
  · rintro ⟨k, hk⟩
    obtain ⟨hn, hsize, -⟩ := power_ints_eq_int_iff.mp hk
    by_cases hzero : n = 0
    · exact .inl hzero
    · exact .inr ⟨by omega, hsize⟩
  · have hwithin : 0 ≤ n ∧ bitLength m.natAbs * n.toNat ≤ powerBitLimit := by
      rcases hexact with rfl | ⟨hn, hsize⟩
      · exact ⟨Int.le_refl 0, Nat.zero_le _⟩
      · exact ⟨Int.le_of_lt hn, hsize⟩
    exact ⟨_, power_ints_of_le hwithin.1 hwithin.2⟩
  · obtain ⟨hn, hsize, rfl⟩ := power_ints_eq_int_iff.mp hk
    have hlength : bitLength (m ^ n.toNat).natAbs ≤ powerBitLimit := by
      rw [Int.natAbs_pow]
      exact bitLength_pow_le_of_le (by decide) hsize
    exact ⟨hn, rfl, bitLength_le_iff.mp hlength, hlength⟩

/-- A power of `-8` comes close to the limit. No power of zero is too long and none with the
exponent zero, but there is a power of one that is. -/
theorem power_ints_bounded_extremes :
    (∃ k, power.apply (.int (-8)) (.int 1024) = .ok (.int k) ∧ k = (-8) ^ 1024 ∧
      k.natAbs < 2 ^ 4096) ∧
    (∃ k, power.apply (.int 0) (.int (10 ^ 30)) = .ok (.int k)) ∧
    (∃ k, power.apply (.int (10 ^ 30)) (.int 0) = .ok (.int k)) ∧
    ¬ ∃ k, power.apply (.int 1) (.int 4097) = .ok (.int k) := by
  obtain ⟨hint, hbounded⟩ := power_ints_bounded (-8) 1024
  obtain ⟨k, hk⟩ := hint.mpr (.inr ⟨by decide, by decide⟩)
  obtain ⟨-, hexact, hsmall, -⟩ := hbounded k hk
  refine ⟨⟨k, hk, hexact, hsmall⟩, ?_, ?_, fun hone => ?_⟩
  · exact (power_ints_bounded 0 (10 ^ 30)).1.mpr (.inr ⟨by decide, by decide⟩)
  · exact (power_ints_bounded (10 ^ 30) 0).1.mpr (.inl rfl)
  · exact absurd ((power_ints_bounded 1 4097).1.mp hone) (by decide)

end Operator

end Formulary
