import Formulary.Number.Binary64

/-!
# Decimal forms of exact quotients

Writing a positive quotient of natural numbers with a chosen or a least number of significant
digits, in positional or in exponent notation.

## Design notes

All arithmetic is exact. `shortest` tries 1, 2, … 17 digits; on each decimal grid only the two
neighbours of the value can be the nearest point that reads back, so it tests these two.
-/

namespace Formulary.Decimal

/-- The value `d.ddd… · 10 ^ power` with its digits from the first to the last significant one. -/
structure Scientific where
  digits : List Char
  power : Int
deriving DecidableEq, Inhabited

/-- How many digits a number has. -/
def digitCount (n : Nat) : Nat :=
  (Nat.toDigits 10 n).length

/-- The power of ten of the first digit of `num / den`, for positive `num` and `den`. -/
def leadingPower (num den : Nat) : Int :=
  if den ≤ num then (digitCount (num / den) : Int) - 1
  else -(digitCount ((den - 1) / num) : Int)

/-- `num / den` times `10 ^ s`, as a pair of natural numbers. -/
def scaleUp (num den : Nat) (s : Int) : Nat × Nat :=
  if 0 ≤ s then (num * Nat.pow 10 s.toNat, den) else (num, den * Nat.pow 10 (-s).toNat)

/-- The scale at which `num / den` has `n` digits before the point. -/
def scaleFor (n : Nat) (num den : Nat) : Int :=
  (n : Int) - 1 - leadingPower num den

/-- The digits of `q / 10 ^ s`, without the zeros at the end. -/
def ofScaled (q : Nat) (s : Int) : Scientific :=
  let ds := Nat.toDigits 10 q
  { digits := (ds.reverse.dropWhile (· = '0')).reverse
    power := (ds.length : Int) - 1 - s }

/-- The positive quotient `num / den` to `n` significant digits, a half going to the even digit. -/
def rounded (n num den : Nat) : Scientific :=
  let s := scaleFor n num den
  let (a, b) := scaleUp num den s
  ofScaled (Binary64.roundDiv a b) s

/-- Whether `q / 10 ^ s` rounds to the floating-point number with these bits. -/
def readsBack (bits q : Nat) (s : Int) : Bool :=
  let (a, b) := scaleUp q 1 (-s)
  Binary64.ratioBits a b = bits

/-- The point with `n` significant digits that is nearest to `num / den` among those that round to
the floating-point number with these bits, if there is one. -/
def nearestReadingBack? (bits num den n : Nat) : Option Scientific :=
  let s := scaleFor n num den
  let (a, b) := scaleUp num den s
  let q := a / b
  match readsBack bits q s, readsBack bits (q + 1) s with
  | true, true => some (ofScaled (Binary64.roundDiv a b) s)
  | true, false => some (ofScaled q s)
  | false, true => some (ofScaled (q + 1) s)
  | false, false => none

/-- Every floating-point number is told apart from all others by this many digits. -/
def maxDigits : Nat := 17

/-- The fewest significant digits that round to the same floating-point number as the positive
quotient `num / den`; of the points with that many digits, the nearest. -/
def shortest (num den : Nat) : Scientific :=
  let bits := Binary64.ratioBits num den
  ((List.range maxDigits).findSome? fun i => nearestReadingBack? bits num den (i + 1)).getD
    (rounded maxDigits num den)

/-- The choice of notation. Powers of ten from `-4` up to but not including `positionalBelow` are
written positionally, all others with an exponent of at least two digits; `wholeMark` adds `.0`
to a positional number without a fraction. -/
structure Style where
  positionalBelow : Int
  wholeMark : Bool

/-- An exponent with its sign and at least two digits. -/
def exponentChars (p : Int) : List Char :=
  let ds := Nat.toDigits 10 p.natAbs
  'e' :: (if p < 0 then '-' else '+') :: (if ds.length < 2 then '0' :: ds else ds)

/-- Digits with a point after the first one, if there are more. -/
def pointAfterFirst : List Char → List Char
  | [] => []
  | [d] => [d]
  | d :: ds => d :: '.' :: ds

/-- Whole digits and a fraction, which may be empty. -/
def withFraction (style : Style) (whole fraction : List Char) : List Char :=
  if fraction.isEmpty then
    if style.wholeMark then whole ++ ['.', '0'] else whole
  else whole ++ '.' :: fraction

/-- A number in the notation that the style chooses for it. -/
def Scientific.render (style : Style) (x : Scientific) : List Char :=
  if x.power < -4 ∨ style.positionalBelow ≤ x.power then
    pointAfterFirst x.digits ++ exponentChars x.power
  else if x.power < 0 then
    withFraction style ['0'] (List.replicate ((-x.power).toNat - 1) '0' ++ x.digits)
  else
    let whole := x.power.toNat + 1
    withFraction style (x.digits.take whole ++ List.replicate (whole - x.digits.length) '0')
      (x.digits.drop whole)

/-- The digits of zero. -/
def Scientific.zero : Scientific :=
  ⟨['0'], 0⟩

end Formulary.Decimal
