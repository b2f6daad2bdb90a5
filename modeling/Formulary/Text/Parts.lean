/-!
# Parts of a text

Cutting a text at separators, and into lines. A text falls into lines at the characters that move
to a new line: the line feed, the carriage return, the vertical tabulator and the form feed, three
of the information separators, the next line control, and the line and paragraph separators. A
carriage return with a line feed behind it is one line end.
-/

namespace Formulary.Text

/-- Puts a character in front of the first of some parts. -/
def consPart (c : Char) : List (List Char) → List (List Char)
  | [] => [[c]]
  | part :: parts => (c :: part) :: parts

/-- The parts of a text between the characters that satisfy `p`. A separator at an end of the text
has an empty part beside it. -/
def partsAt (p : Char → Bool) : List Char → List (List Char)
  | [] => [[]]
  | c :: cs => if p c then [] :: partsAt p cs else consPart c (partsAt p cs)

/-- The characters that end a line. -/
def isLineEnd (c : Char) : Bool :=
  [0x0A, 0x0B, 0x0C, 0x0D, 0x1C, 0x1D, 0x1E, 0x85, 0x2028, 0x2029].contains c.toNat

/-- The lines of a text. A line end at the end of the text begins no further line, so the empty
text has no lines. -/
def lines : List Char → List (List Char)
  | [] => []
  | '\r' :: '\n' :: cs => [] :: lines cs
  | c :: cs => if isLineEnd c then [] :: lines cs else consPart c (lines cs)

end Formulary.Text
