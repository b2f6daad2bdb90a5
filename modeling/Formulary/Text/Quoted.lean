import Formulary.Text.Printable

/-!
# Quoted text

The form in which messages and logs show a text: between quotes, on one line, with every
character that is not printable written as an escape. Single quotes are used unless the text
holds a single quote and no double quote.
-/

namespace Formulary.Text

/-- The `width` lowest hexadecimal digits of `n`, the most significant first. -/
def hexDigits : (width : Nat) → (n : Nat) → List Char
  | 0, _ => []
  | w + 1, n => hexDigits w (n / 16) ++ [Nat.digitChar (n % 16)]

/-- How a character is written between the quotes `q`. The escapes are the backslash before a
backslash or the quote itself, the three named controls, and the shortest of the two, four and
eight digit forms that holds the code point of any other character that is not printable. -/
def escape (q c : Char) : List Char :=
  if c = q ∨ c = '\\' then ['\\', c]
  else if c = '\n' then ['\\', 'n']
  else if c = '\r' then ['\\', 'r']
  else if c = '\t' then ['\\', 't']
  else if isPrintable c then [c]
  else if c.toNat < 0x100 then '\\' :: 'x' :: hexDigits 2 c.toNat
  else if c.toNat < 0x10000 then '\\' :: 'u' :: hexDigits 4 c.toNat
  else '\\' :: 'U' :: hexDigits 8 c.toNat

/-- The quote that a text is put between. -/
def quoteFor (cs : List Char) : Char :=
  if cs.contains '\'' && !cs.contains '"' then '"' else '\''

/-- The characters of a quoted text. -/
def quotedChars (cs : List Char) : List Char :=
  quoteFor cs :: cs.flatMap (escape (quoteFor cs)) ++ [quoteFor cs]

/-- A text between quotes, with escapes for what is not printable. -/
def quoted (s : String) : String :=
  String.ofList (quotedChars s.toList)

/-- A text that may be absent: quoted, or the word `None`. -/
def quotedOrNone : Option String → String
  | some s => quoted s
  | none => "None"

/-- The count of digits is fixed. -/
theorem length_hexDigits (w n : Nat) : (hexDigits w n).length = w := by
  induction w generalizing n with
  | zero => rfl
  | succ w ih => simp [hexDigits, ih]

end Formulary.Text
