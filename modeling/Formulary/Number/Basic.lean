import Formulary.Number.Binary64

/-!
# Numbers

A value is either an exact integer of any size or a 64-bit floating-point number. The two kinds
never mix silently: `3` and `3.0` are different values.
-/

namespace Formulary

/-- An exact integer or a floating-point number. -/
inductive Number
  | int (n : Int)
  | float (x : Float)
deriving Inhabited

namespace Number

/-- The nearest floating-point number; an integer that rounds past the largest one has none. -/
def toFloat? : Number → Option Float
  | int n => Binary64.ofInt? n
  | float x => some x

/-- Every integer is finite; a floating-point number is if it is neither infinite nor not a
number. -/
def isFinite : Number → Bool
  | int _ => true
  | float x => Binary64.isFinite x

end Number

end Formulary
