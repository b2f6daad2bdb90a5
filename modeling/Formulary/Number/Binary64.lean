/-!
# Exact view of binary64 numbers

A finite 64-bit floating-point number is an exact multiple of a power of two. This module reads
that multiple off the bits, and rounds exact quotients of natural numbers to the nearest
floating-point number. Everything is done on natural numbers and integers.

## Main definitions

* `Shape`, `shape` — the exact value behind the bits of a `Float`
* `ofRatio?` — the nearest `Float` to a quotient, with ties to the even neighbour, and nothing
  when the quotient rounds past the largest finite number
* `ofInt?` — the nearest `Float` to an integer
* `wholeValue?` — the integer that a `Float` equals, if it is whole
* `isFinite`, `isOddWhole`, `isNegative`

## Design notes

The bits of a number, its sign apart, grow by one from each number to the next, also from the
subnormal to the normal numbers and from one power of two to the next. Rounding therefore adds
the rounded significand to the shifted exponent and needs no case for a carry.
-/

namespace Formulary.Binary64

/-- What a floating-point number is: not a number, infinite, or `± mantissa · 2 ^ exponent`. -/
inductive Shape
  | nan
  | infinite (negative : Bool)
  | finite (negative : Bool) (mantissa : Nat) (exponent : Int)
deriving DecidableEq, Inhabited

/-- Two to the power of 52, where the fraction ends and the exponent begins. -/
def fractionUnit : Nat := 0x10000000000000

/-- Two to the power of 63, the worth of the sign bit. -/
def signUnit : Nat := 0x8000000000000000

/-- The exponent of the subnormal numbers, the least of all. -/
def leastExponent : Int := -1074

/-- Reads the exact value off the sign, the eleven exponent bits and the 52 fraction bits. -/
def shape (x : Float) : Shape :=
  let bits := x.toBits.toNat
  let negative := signUnit ≤ bits
  let field := bits / fractionUnit % 2048
  let fraction := bits % fractionUnit
  if field = 2047 then
    if fraction = 0 then .infinite negative else .nan
  else if field = 0 then
    .finite negative fraction leastExponent
  else
    .finite negative (fractionUnit + fraction) (leastExponent + ((field - 1 : Nat) : Int))

/-- The number with the given sign whose other bits are `bits`. -/
def ofSignAndBits (negative : Bool) (bits : Nat) : Float :=
  Float.ofBits (UInt64.ofNat ((if negative then signUnit else 0) + bits))

/-- The bits of infinity, its sign apart; every finite number has smaller ones. -/
def infiniteBits : Nat := 2047 * fractionUnit

/-- The quotient `num / den` rounded to an integer, a half going to the even neighbour. -/
def roundDiv (num den : Nat) : Nat :=
  let q := num / den
  let r := num % den
  if 2 * r > den ∨ (2 * r = den ∧ q % 2 = 1) then q + 1 else q

/-- `num / den` divided by `2 ^ e`, as a pair of natural numbers. -/
def scaleDown (num den : Nat) (e : Int) : Nat × Nat :=
  if 0 ≤ e then (num, den * Nat.pow 2 e.toNat) else (num * Nat.pow 2 (-e).toNat, den)

/-- The exponent at which `num / den` has a significand of 53 bits, or the least exponent if the
quotient is too small for that. -/
def unitExponent (num den : Nat) : Int :=
  let guess : Int := (num.log2 : Int) - den.log2 - 52
  let (n, d) := scaleDown num den guess
  max leastExponent (if n / d < fractionUnit then guess - 1 else guess)

/-- The bits, sign apart, of the floating-point number nearest to `num / den`; `infiniteBits` or
more when the quotient rounds past the largest finite number. -/
def ratioBits (num den : Nat) : Nat :=
  if num = 0 then 0
  else
    let e := unitExponent num den
    let (n, d) := scaleDown num den e
    (e - leastExponent).toNat * fractionUnit + roundDiv n d

/-- The floating-point number nearest to `± num / den`. -/
def ofRatio? (negative : Bool) (num den : Nat) : Option Float :=
  let bits := ratioBits num den
  if bits < infiniteBits then some (ofSignAndBits negative bits) else none

/-- The nearest floating-point number to an integer, unless that is too large. -/
def ofInt? (n : Int) : Option Float :=
  ofRatio? (n < 0) n.natAbs 1

def infinity (negative : Bool) : Float :=
  ofSignAndBits negative infiniteBits

def zero (negative : Bool) : Float :=
  ofSignAndBits negative 0

def nan : Float :=
  Float.ofBits 0x7FF8000000000000

/-- Neither infinite nor not a number. -/
def isFinite (x : Float) : Bool :=
  match shape x with
  | .finite .. => true
  | _ => false

/-- The sign bit is set. -/
def isNegative (x : Float) : Bool :=
  match shape x with
  | .finite negative .. => negative
  | .infinite negative => negative
  | .nan => false

/-- The integer with the given sign and absolute value. -/
def signed (negative : Bool) (n : Nat) : Int :=
  if negative then -(n : Int) else n

/-- The integer that a floating-point number equals; infinities, what is not a number and
fractional numbers have none. -/
def wholeValue? (x : Float) : Option Int :=
  match shape x with
  | .finite negative m e =>
    if 0 ≤ e then some (signed negative (m * Nat.pow 2 e.toNat))
    else if m % Nat.pow 2 (-e).toNat = 0 then
      some (signed negative (m / Nat.pow 2 (-e).toNat))
    else none
  | _ => none

/-- Equals an odd integer. -/
def isOddWhole (x : Float) : Bool :=
  match wholeValue? x with
  | some n => n % 2 = 1
  | none => false

/-- The quotient of the magnitude of a finite number: `mantissa · 2 ^ exponent` as a pair. -/
def magnitude (mantissa : Nat) (exponent : Int) : Nat × Nat :=
  scaleDown mantissa 1 (-exponent)

end Formulary.Binary64
