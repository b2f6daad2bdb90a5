import Mathlib.Data.Nat.Digits.Defs
import Mathlib.Data.Nat.Digits.Lemmas
import Mathlib.Tactic.SplitIfs
import Formulary.Number.Text

/-!
# Numbers that can be sent and shown

A number can be sent if it is finite, which its bits tell, and shown if it is not an integer of too
many digits. Floating-point numbers are never too long: those that are whole are below `2 ^ 1024`.
-/

namespace Formulary

namespace Binary64

section Bits

open Float.Model

/-- The exponent field of a number, read off its bits by division. -/
theorem toNat_unpackExponent (x : Float) :
    (@UnpackedFloat.unpackExponent Format.binary64 x.toBits.toBitVec).toNat =
      x.toBits.toNat / fractionUnit % 2048 := by
  rw [UnpackedFloat.unpackExponent, BitVec.toNat_cast, BitVec.extractLsb_toNat,
    Nat.shiftRight_eq_div_pow]
  rfl

/-- Bits whose exponent is not all ones stand for a finite number. -/
theorem isFinite_unpack {b : BitVec 64}
    (h : @UnpackedFloat.unpackExponent Format.binary64 b ≠ -1#11) :
    (UnpackedFloat.unpack Format.binary64 b).isFinite = true := by
  unfold UnpackedFloat.unpack
  dsimp only
  rw [if_neg h]
  by_cases hexponent : @UnpackedFloat.unpackExponent Format.binary64 b = 0#11
  · rw [if_pos hexponent]
    by_cases hmantissa : @UnpackedFloat.unpackMantissa Format.binary64 b = 0#52
    · rw [dif_pos hmantissa]
      rfl
    · rw [dif_neg hmantissa]
      rfl
  · rw [if_neg hexponent]
    rfl

/-- The exponent bits are all set exactly in infinities and in what is not a number. -/
theorem isFinite_eq (x : Float) : isFinite x = x.isFinite := by
  have hones : @UnpackedFloat.unpackExponent Format.binary64 x.toBits.toBitVec = -1#11 ↔
      x.toBits.toNat / fractionUnit % 2048 = 2047 := by
    rw [← BitVec.toNat_inj, ← toNat_unpackExponent]
    rfl
  show _ = (UnpackedFloat.unpack Format.binary64 x.toBits.toBitVec).isFinite
  unfold isFinite shape
  dsimp only
  by_cases h : x.toBits.toNat / fractionUnit % 2048 = 2047
  · unfold UnpackedFloat.unpack
    dsimp only
    rw [if_pos h, if_pos (hones.mpr h)]
    split_ifs <;> rfl
  · rw [if_neg h, isFinite_unpack (mt hones.mp h)]
    split_ifs <;> rfl

end Bits

/-- The significand of a finite number has at most 53 bits, and its exponent is at most 971. -/
theorem shape_finite_bounds {x : Float} {negative : Bool} {m : Nat} {e : Int}
    (h : shape x = .finite negative m e) : m < 2 ^ 53 ∧ e ≤ 971 := by
  have hfraction : x.toBits.toNat % fractionUnit < 2 ^ 52 := Nat.mod_lt _ (by decide)
  have hfield : x.toBits.toNat / fractionUnit % 2048 < 2048 := Nat.mod_lt _ (by decide)
  unfold shape at h
  dsimp only at h
  have hunit : fractionUnit = 2 ^ 52 := rfl
  have hleast : leastExponent = -1074 := rfl
  split at h
  · split at h <;> cases h
  · split at h
    · obtain ⟨-, rfl, rfl⟩ := Shape.finite.inj h
      omega
    · obtain ⟨-, rfl, rfl⟩ := Shape.finite.inj h
      omega

/-- A floating-point number is less than `2 ^ 1024` in magnitude, and so is an integer that it
equals. -/
theorem natAbs_wholeValue?_lt {x : Float} {n : Int} (h : wholeValue? x = some n) {k : Nat}
    (hk : 1024 ≤ k) : n.natAbs < 2 ^ k := by
  have hsigned : ∀ negative k, (signed negative k).natAbs = k := by
    intro negative k
    cases negative <;> simp [signed]
  unfold wholeValue? at h
  split at h
  · next negative m e hshape =>
    obtain ⟨hm, he⟩ := shape_finite_bounds hshape
    split at h
    · obtain rfl := Option.some.inj h
      rw [hsigned]
      calc m * 2 ^ e.toNat
          < 2 ^ 53 * 2 ^ e.toNat := Nat.mul_lt_mul_of_pos_right hm (Nat.two_pow_pos _)
        _ = 2 ^ (53 + e.toNat) := (Nat.pow_add 2 53 _).symm
        _ ≤ 2 ^ k := Nat.pow_le_pow_right (by decide) (by omega)
    · split at h
      · obtain rfl := Option.some.inj h
        rw [hsigned]
        calc m / 2 ^ (-e).toNat
            ≤ m := Nat.div_le_self _ _
          _ < 2 ^ 53 := hm
          _ ≤ 2 ^ k := Nat.pow_le_pow_right (by decide) (by omega)
      · cases h
  · cases h

end Binary64

namespace Number

/-- Only a floating-point number can fail to be finite. -/
theorem isFinite_eq_false_iff {v : Number} :
    v.isFinite = false ↔ ∃ x, v = .float x ∧ x.isFinite = false := by
  cases v <;> simp [isFinite, Binary64.isFinite_eq]

/-- An integer with more digits than can be shown. -/
def Oversized (v : Number) : Prop :=
  ∃ n : Int, v = .int n ∧ maxIntegerDigits < (Nat.digits 10 n.natAbs).length

/-- An integer fits the display if it is below a fixed power of ten. -/
theorem fitsDisplay_iff {n : Int} : fitsDisplay n = true ↔ n.natAbs < 10 ^ maxIntegerDigits := by
  rw [fitsDisplay, decide_eq_true_eq, Nat.pow_eq]

/-- An integer fits the display if it does not have too many digits. -/
theorem fitsDisplay_iff_length_digits {n : Int} :
    fitsDisplay n = true ↔ (Nat.digits 10 n.natAbs).length ≤ maxIntegerDigits := by
  rw [fitsDisplay_iff, ← not_lt, Nat.lt_digits_length_iff (by decide), not_le]

/-- The integers that cannot be shown are those of too many digits. -/
theorem displayInteger?_eq_none_iff {n : Int} :
    displayInteger? n = none ↔ maxIntegerDigits < (Nat.digits 10 n.natAbs).length := by
  rw [← not_le, ← fitsDisplay_iff_length_digits]
  simp [displayInteger?]

/-- An integer that can be shown is shown in full. -/
theorem display?_int_eq_some_iff {n : Int} {shown : String} :
    display? (.int n) = some shown ↔ fitsDisplay n = true ∧ integerText n = shown := by
  rw [display?, displayInteger?]
  split <;> simp_all

/-- Every number can be shown, apart from integers of too many digits. -/
theorem display?_eq_none_iff {v : Number} : v.display? = none ↔ v.Oversized := by
  cases v with
  | int n => simp [display?, displayInteger?_eq_none_iff, Oversized]
  | float x =>
    have hshown : display? (.float x) ≠ none := by
      unfold display?
      dsimp only
      split
      · next n hn =>
        have hfits : fitsDisplay n = true := fitsDisplay_iff.mpr <|
          calc n.natAbs
              < 2 ^ maxIntegerDigits := Binary64.natAbs_wholeValue?_lt hn (by decide)
            _ ≤ 10 ^ maxIntegerDigits := Nat.pow_le_pow_left (by decide) _
        simp [displayInteger?, hfits]
      · simp
    simp [hshown, Oversized]

end Number

end Formulary
