import Formulary.Number.Basic
import Formulary.Number.Decimal

/-!
# Numbers as text

Two ways to write a number. The *exact* form tells every two numbers apart: an integer in full,
a floating-point number by the fewest digits that read back. The *display* form is for people:
a whole number in full whatever its kind, any other to ten significant digits.
-/

namespace Formulary

/-- The exact form: positional below `10 ^ 16`, and `.0` marks a whole floating-point number. -/
def exactStyle : Decimal.Style := ⟨16, true⟩

/-- How many significant digits the display form keeps. -/
def displayDigits : Nat := 10

/-- The display form: positional below `10 ^ 10`, whole numbers without a mark. -/
def displayStyle : Decimal.Style := ⟨displayDigits, false⟩

/-- The largest count of digits that the display form of an integer may have, and that the text
of an integer may have to be read as one. -/
def maxIntegerDigits : Nat := 4300

/-- A floating-point number with the sign in front and its magnitude written by `write`, which is
given a positive quotient. -/
def floatChars (style : Decimal.Style) (write : Nat → Nat → Decimal.Scientific) (x : Float) :
    List Char :=
  let withSign (negative : Bool) (cs : List Char) := if negative then '-' :: cs else cs
  match Binary64.shape x with
  | .nan => ['n', 'a', 'n']
  | .infinite negative => withSign negative ['i', 'n', 'f']
  | .finite negative m e =>
    let (num, den) := Binary64.magnitude m e
    withSign negative ((if num = 0 then Decimal.Scientific.zero else write num den).render style)

/-- An integer in full. -/
def integerText (n : Int) : String :=
  toString n

/-- An integer does not have too many digits to be shown. -/
def fitsDisplay (n : Int) : Bool :=
  n.natAbs < Nat.pow 10 maxIntegerDigits

namespace Number

/-- The exact form of a number. -/
def text : Number → String
  | int n => integerText n
  | float x => String.ofList (floatChars exactStyle Decimal.shortest x)

/-- The refusal to write an integer of too many digits. -/
def tooLongMessage : String :=
  s!"Exceeds the limit ({maxIntegerDigits} digits) for integer string conversion; "
    ++ "use sys.set_int_max_str_digits() to increase the limit"

/-- An integer in full, unless it has too many digits. -/
def displayInteger? (n : Int) : Option String :=
  if fitsDisplay n then some (integerText n) else none

/-- The display form. A whole floating-point number is written like the integer it equals. -/
def display? : Number → Option String
  | int n => displayInteger? n
  | float x =>
    match Binary64.wholeValue? x with
    | some n => displayInteger? n
    | none => some (String.ofList (floatChars displayStyle (Decimal.rounded displayDigits) x))

end Number

end Formulary
