import Formulary.Number.Basic
import Formulary.Operator

/-!
# Arithmetic

What each operator does to two numbers, and the ways in which it can fail.

Two integers give an exact integer under `+`, `-` and `*`, and under `^` when the exponent is not
negative and the result stays small; their quotient is the floating-point number nearest to the
exact one. As soon as a floating-point number takes part, the other operand becomes one as well
and so does the result.

## Design notes

`power` decides by itself every case with an infinity, a zero, a one or something that is not a
number, and the sign of the result; the library power is only asked about a positive finite base
other than one and a finite exponent other than zero.
-/

namespace Formulary

/-- Why an operation has no result. -/
inductive ArithmeticError
  /-- An integer divided by the integer zero. -/
  | integerDivisionByZero
  /-- A division by zero with a floating-point number on either side. -/
  | floatDivisionByZero
  /-- Zero to a negative power. -/
  | zeroToNegativePower
  /-- An integer too large to become a floating-point number. -/
  | integerTooLarge
  /-- A quotient of integers too large for a floating-point number. -/
  | quotientTooLarge
  /-- A power too large for a floating-point number. -/
  | powerTooLarge
  /-- A power with no real value whose magnitude is too large as well. -/
  | unrealPowerTooLarge
  /-- A negative base with a fractional exponent. -/
  | notReal (left right : Number)

/-- The largest count of bits, by the estimate of `exactPowerBits`, of an exact integer power. -/
def powerBitLimit : Nat := 4096

/-- The length of a natural number in binary, zero for zero. -/
def bitLength (n : Nat) : Nat :=
  if n = 0 then 0 else n.log2 + 1

/-- An upper estimate of the length of `left ^ right` in binary. -/
def exactPowerBits (left : Int) (right : Nat) : Nat :=
  bitLength left.natAbs * right

namespace Arithmetic

/-- The exact power. Powers of zero are told at once, however large the exponent is. -/
def integerPower (m : Int) (n : Nat) : Int :=
  if m = 0 ∧ n ≠ 0 then 0 else Int.pow m n

/-- Squaring gives the same power as multiplying one factor after the other. -/
theorem integerPower_eq (m : Int) (n : Nat) : integerPower m n = Int.pow m n := by
  unfold integerPower
  split
  · next h => exact h.1 ▸ (Int.zero_pow h.2).symm
  · rfl

/-- Both operands as floating-point numbers, the left one converted first. -/
def toFloats (left right : Number) : Except ArithmeticError (Float × Float) :=
  match left.toFloat?, right.toFloat? with
  | some x, some y => .ok (x, y)
  | _, _ => .error .integerTooLarge

/-- An operation that is exact on integers and otherwise works on floating-point numbers. -/
def exactOrFloat (onInts : Int → Int → Int) (onFloats : Float → Float → Float) :
    Number → Number → Except ArithmeticError Number
  | .int m, .int n => .ok (.int (onInts m n))
  | left, right => (toFloats left right).map fun (x, y) => .float (onFloats x y)

/-- The sum of two numbers. -/
def add : Number → Number → Except ArithmeticError Number :=
  exactOrFloat (· + ·) (· + ·)

/-- The difference of two numbers. -/
def subtract : Number → Number → Except ArithmeticError Number :=
  exactOrFloat (· - ·) (· - ·)

/-- The product of two numbers. -/
def multiply : Number → Number → Except ArithmeticError Number :=
  exactOrFloat (· * ·) (· * ·)

/-- The quotient of two integers, rounded once. A zero quotient keeps the sign of a negative
divisor. -/
def divideInts (m n : Int) : Except ArithmeticError Number :=
  if n = 0 then .error .integerDivisionByZero
  else
    match Binary64.ofRatio? ((m < 0) != (n < 0)) m.natAbs n.natAbs with
    | some x => .ok (.float x)
    | none => .error .quotientTooLarge

/-- The quotient of two numbers, which is never an integer. -/
def divide : Number → Number → Except ArithmeticError Number
  | .int m, .int n => divideInts m n
  | left, right => do
    let (x, y) ← toFloats left right
    if y == 0.0 then .error .floatDivisionByZero else .ok (.float (x / y))

/-- A finite positive base other than one to a finite exponent other than zero. -/
def positivePower (base exponent : Float) : Except ArithmeticError Float :=
  let result := Float.pow base exponent
  if Binary64.isFinite result then .ok result else .error .powerTooLarge

/-- A power of floating-point numbers. An exponent of zero gives one and a base of one gives one,
whatever the other operand is. -/
def powerFloats (x y : Float) : Except ArithmeticError Float :=
  if y == 0.0 then .ok 1.0
  else if x.isNaN then .ok x
  else if y.isNaN then .ok (if x == 1.0 then 1.0 else y)
  else if y.isInf then
    let size := x.abs
    if size == 1.0 then .ok 1.0
    else if (y > 0.0) == (size > 1.0) then .ok (Binary64.infinity false)
    else .ok (Binary64.zero false)
  else
    let odd := Binary64.isOddWhole y
    if x.isInf then
      if y > 0.0 then .ok (if odd then x else x.abs)
      else .ok (Binary64.zero (odd && Binary64.isNegative x))
    else if x == 0.0 then
      if y < 0.0 then .error .zeroToNegativePower
      else .ok (if odd then x else Binary64.zero false)
    else if x < 0.0 then
      match Binary64.wholeValue? y with
      | none =>
        match positivePower (-x) y with
        | .ok _ => .error (.notReal (.float x) (.float y))
        | .error _ => .error .unrealPowerTooLarge
      | some _ =>
        if x == -1.0 then .ok (if odd then -1.0 else 1.0)
        else (positivePower (-x) y).map fun z => if odd then -z else z
    else if x == 1.0 then .ok 1.0
    else positivePower x y

/-- The power of two numbers as floating-point numbers. -/
def powerByFloats (left right : Number) : Except ArithmeticError Number := do
  let (x, y) ← toFloats left right
  match powerFloats x y with
  | .ok z => .ok (.float z)
  | .error (.notReal _ _) => .error (.notReal left right)
  | .error e => .error e

/-- The power. It is an exact integer only if both operands are integers, the exponent is not
negative and `exactPowerBits` stays within `powerBitLimit`. -/
def power : Number → Number → Except ArithmeticError Number
  | .int m, .int n =>
    if 0 ≤ n ∧ exactPowerBits m n.toNat ≤ powerBitLimit then .ok (.int (integerPower m n.toNat))
    else powerByFloats (.int m) (.int n)
  | left, right => powerByFloats left right

end Arithmetic

/-- What an operator does to two numbers. -/
def Operator.apply : Operator → Number → Number → Except ArithmeticError Number
  | .power => Arithmetic.power
  | .times => Arithmetic.multiply
  | .divide => Arithmetic.divide
  | .plus => Arithmetic.add
  | .minus => Arithmetic.subtract

end Formulary
