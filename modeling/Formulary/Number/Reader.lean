import Formulary.Number.Text
import Formulary.Text.Blank
import Formulary.Text.Digit

/-!
# Reading numbers

The text of a number as a person writes it: an optional sign, then decimal digits of any script,
perhaps with a fraction and an exponent, or one of the words for infinity and for what is not a
number. Single underscores may stand between digits, blanks around the whole.
-/

namespace Formulary.Reader

open Text

/-- Removes the underscores from a text. Each has to stand between two ASCII digits; `afterDigit`
tells whether the character in front of the text is one. -/
def withoutSeparators? : (afterDigit : Bool) → List Char → Option (List Char)
  | _, [] => some []
  | afterDigit, '_' :: cs =>
    match cs with
    | c :: _ => if afterDigit && isAsciiDigit c then withoutSeparators? false cs else none
    | [] => none
  | _, c :: cs => (withoutSeparators? (isAsciiDigit c) cs).map (c :: ·)

/-- Splits an optional sign from the front of a text; `true` stands for a minus. -/
def splitSign : List Char → Bool × List Char
  | '-' :: cs => (true, cs)
  | '+' :: cs => (false, cs)
  | cs => (false, cs)

/-- A text of one or more ASCII digits. -/
def isDigits (cs : List Char) : Bool :=
  !cs.isEmpty && cs.all isAsciiDigit

/-- Reads an optional sign and digits, of which there may be at most `maxIntegerDigits`. -/
def readInteger? (cs : List Char) : Option Int := do
  let (negative, digits) := splitSign cs
  if isDigits digits && digits.length ≤ maxIntegerDigits then
    some (Binary64.signed negative (digitsValue digits))
  else none

/-- Powers of ten beyond which every number with a digit before the point is too large. -/
def hugePower : Int := 400

/-- The floating-point number nearest to `± digits · 10 ^ exponent`, infinity if that rounds past
the largest finite one. Numbers far outside the range are told by their leading power of ten. -/
def ofScientific (negative : Bool) (digits : Nat) (exponent : Int) : Float :=
  if digits = 0 then Binary64.zero negative
  else
    let power := (Decimal.digitCount digits : Int) - 1 + exponent
    if power < -hugePower then Binary64.zero negative
    else if hugePower < power then Binary64.infinity negative
    else
      let (num, den) := Decimal.scaleUp digits 1 exponent
      (Binary64.ofRatio? negative num den).getD (Binary64.infinity negative)

/-- Reads an optional exponent, which has to end the text: nothing, or `e`, an optional sign and
at least one digit. -/
def readExponent? : List Char → Option Int
  | [] => some 0
  | c :: cs =>
    if c = 'e' ∨ c = 'E' then
      let (negative, digits) := splitSign cs
      if isDigits digits then some (Binary64.signed negative (digitsValue digits)) else none
    else none

/-- Splits an optional point and the digits after it from the front of a text. -/
def splitFraction : List Char → List Char × List Char
  | '.' :: cs => cs.span isAsciiDigit
  | cs => ([], cs)

/-- Reads digits with an optional fraction and an optional exponent; at least one digit has to
stand before or after the point. -/
def readDecimal? (negative : Bool) (cs : List Char) : Option Float := do
  let (whole, afterWhole) := cs.span isAsciiDigit
  let (fraction, rest) := splitFraction afterWhole
  if whole.isEmpty && fraction.isEmpty then none
  else
    let exponent ← readExponent? rest
    some (ofScientific negative (digitsValue (whole ++ fraction)) (exponent - fraction.length))

/-- The words for infinity and for what is not a number, in lower case. -/
def readWord? (negative : Bool) (word : String) : Option Float :=
  if word = "inf" ∨ word = "infinity" then some (Binary64.infinity negative)
  else if word = "nan" then some Binary64.nan
  else none

/-- Reads an optional sign and then a word or digits with an optional fraction and exponent. -/
def readFloat? (cs : List Char) : Option Float :=
  let (negative, unsigned) := splitSign cs
  readWord? negative (String.ofList (unsigned.map Char.toLower)) <|> readDecimal? negative unsigned

/-- The text of a number in a plain form: no blanks at the ends, ASCII digits, no underscores. -/
def plain? (cs : List Char) : Option (List Char) :=
  withoutSeparators? false ((strip cs).map toAsciiDigit)

end Formulary.Reader

namespace Formulary

/-- Reads a number: an integer if the text is one, else a floating-point number if it is one. -/
def Number.read? (s : String) : Option Number := do
  let cs ← Reader.plain? s.toList
  (Reader.readInteger? cs).map .int <|> (Reader.readFloat? cs).map .float

end Formulary
