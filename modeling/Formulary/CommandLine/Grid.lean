import Formulary.Text.Blank
import Formulary.Text.Parts

/-!
# Tables on a terminal

Tables drawn with plain characters, with a title centred over them. A column is as wide as its
widest cell. A cell may have several lines, and a line that tabulators make wider than its column
is broken at blanks. What is still too wide is cut off and ends in a mark of omission.

## Design notes

A tabulator counts nothing when a cell is measured and moves to the next multiple of eight when
the cell is drawn, so only cells with tabulators are ever broken or cut off.
-/

namespace Formulary.CommandLine

/-- A column: its header, the side to which its cells move, and whether their lines may be
broken. -/
structure Column where
  header : String
  alignRight : Bool
  breaksLines : Bool

/-- A table. Without edge padding there is no blank beside the outer borders. -/
structure Grid where
  title : String
  columns : List Column
  showHeader : Bool
  padEdge : Bool
  rows : List (List String)

namespace Grid

/-- How many places of a terminal line a character takes. -/
def charWidth (c : Char) : Nat :=
  if c.toNat < 0x20 || (0x7F ≤ c.toNat && c.toNat < 0xA0) then 0
  else if c.toNat = 0x2028 || c.toNat = 0x2029 then 0
  else if c.toNat = 0x3000 then 2
  else 1

/-- How many columns a text takes. -/
def width (cs : List Char) : Nat :=
  cs.foldr (fun c n => charWidth c + n) 0

/-- Controls that have no place in a cell. -/
def isDropped (c : Char) : Bool :=
  [0x07, 0x08, 0x0B, 0x0C, 0x0D].contains c.toNat

/-- The characters of a cell that are drawn. -/
def cellChars (s : String) : List Char :=
  s.toList.filter fun c => !isDropped c

/-- The width that a cell asks for, that of its widest line. -/
def cellWidth (s : String) : Nat :=
  ((Text.lines (cellChars s)).map width).foldl max 0

/-- Replaces each tabulator by blanks up to the next multiple of eight; `column` places are taken
already. -/
def expandTabs : (column : Nat) → List Char → List Char
  | _, [] => []
  | column, '\t' :: cs =>
    let blanks := 8 - column % 8
    List.replicate blanks ' ' ++ expandTabs (column + blanks) cs
  | column, c :: cs => c :: expandTabs (column + charWidth c) cs

/-- The words of a line, each with the blanks behind it; the first one has the blanks in front of
it as well. -/
def splitWords (line : List Char) : List (List Char) :=
  match line.splitBy fun a b => !Text.isBlank a || Text.isBlank b with
  | first :: second :: rest =>
    if Text.allBlank first then (first ++ second) :: rest else first :: second :: rest
  | words => words

/-- Puts words on lines of at most `limit` places. The line begun so far is `line`, which takes
`used` places. -/
def fillLines (limit : Nat) : (line : List Char) → (used : Nat) → List (List Char) →
    List (List Char)
  | line, _, [] => [line]
  | line, used, word :: words =>
    if used + width (Text.stripEnd word) ≤ limit || line.isEmpty then
      fillLines limit (line ++ word) (used + width word) words
    else line :: fillLines limit word (width word) words

/-- A line with the blanks at its end cut off as far as it has more than `limit` characters. -/
def cutBlanks (limit : Nat) (line : List Char) : List Char :=
  let blanks := line.length - (Text.stripEnd line).length
  line.take (line.length - min blanks (line.length - limit))

/-- The lines of a cell in a column of limited width. -/
def cellLines (column : Column) (limit : Nat) (s : String) : List (List Char) :=
  (Text.partsAt (· = '\n') (cellChars s)).flatMap fun line =>
    let line := expandTabs 0 line
    let lines :=
      if column.breaksLines then fillLines limit [] 0 (splitWords line) else [line]
    lines.map (cutBlanks limit)

/-- Searches by halving for a beginning of a line that takes exactly `limit` places. Its last
character is one of those from number `low` to number `high`. If the limit is in the middle of a
wide character, a blank takes the place of that character's first half. -/
def cropBetween (limit : Nat) (line : List Char) : (attempts low high : Nat) → List Char
  | 0, _, _ => []
  | attempts + 1, low, high =>
    let middle := (low + high) / 2
    let start := line.take (middle + 1)
    if width start = limit then start
    else if width start = limit + 1 && (start.getLast?.map charWidth) = some 2 then
      start.dropLast ++ [' ']
    else if limit < width start then cropBetween limit line attempts low middle
    else cropBetween limit line attempts middle high

/-- A beginning of a line that takes exactly `limit` places, if the whole line takes more. Where
characters without width leave a choice, the search by halving decides. -/
def crop (limit : Nat) (line : List Char) : List Char :=
  if limit = 0 then [] else cropBetween limit line (line.length + 1) 0 line.length

/-- A line that is too long ends in a mark of omission. -/
def shorten (limit : Nat) (line : List Char) : List Char :=
  if width line ≤ limit then line else crop (limit - 1) line ++ ['…']

/-- A line of exactly `limit` places. -/
def fit (column : Column) (limit : Nat) (line : List Char) : List Char :=
  let line := shorten limit (if column.alignRight then Text.stripEnd line else line)
  let blanks := List.replicate (limit - width line) ' '
  if column.alignRight then blanks ++ line else line ++ blanks

/-- The columns with their positions. -/
def numbered (g : Grid) : List (Nat × Column) :=
  (List.range g.columns.length).zip g.columns

/-- The rows that are drawn, the header among them. -/
def allRows (g : Grid) : List (List String) :=
  if g.showHeader then g.columns.map (·.header) :: g.rows else g.rows

/-- The width of the widest cell of a column. -/
def columnWidth (g : Grid) (i : Nat) : Nat :=
  (g.allRows.map fun row => cellWidth (row.getD i "")).foldl max 0

def padLeft (g : Grid) (i : Nat) : Nat :=
  if i = 0 && !g.padEdge then 0 else 1

def padRight (g : Grid) (i : Nat) : Nat :=
  if i + 1 = g.columns.length && !g.padEdge then 0 else 1

/-- The width of a column with its blanks. -/
def paddedWidth (g : Grid) (i : Nat) : Nat :=
  g.padLeft i + g.columnWidth i + g.padRight i

/-- The lines of a cell with the blanks of its column. -/
def paddedCell (g : Grid) (i : Nat) (column : Column) (s : String) : List (List Char) :=
  (cellLines column (g.columnWidth i) s).map fun line =>
    List.replicate (g.padLeft i) ' ' ++ fit column (g.columnWidth i) line
      ++ List.replicate (g.padRight i) ' '

/-- The lines of a row, in which all cells are equally high. -/
def rowLines (g : Grid) (row : List String) : List (List Char) :=
  let cells := g.numbered.map fun (i, column) => (i, g.paddedCell i column (row.getD i ""))
  let height := (cells.map fun (_, lines) => lines.length).foldl max 0
  (List.range height).map fun k =>
    let parts := cells.map fun (i, lines) =>
      lines.getD k (List.replicate (g.paddedWidth i) ' ')
    '|' :: ['|'].intercalate parts ++ ['|']

/-- A rule between rows, with the given characters at the ends and between the columns. -/
def rule (g : Grid) (edge between : Char) : List Char :=
  let parts := g.numbered.map fun (i, _) => List.replicate (g.paddedWidth i) '-'
  edge :: [between].intercalate parts ++ [edge]

/-- The title, centred over the table. -/
def titleLine (g : Grid) (total : Nat) : List Char :=
  List.replicate ((total - width g.title.toList) / 2) ' ' ++ g.title.toList

/-- The lines of the drawing. -/
def lines (g : Grid) : List String :=
  let border := g.rule '+' '-'
  let rows := match g.showHeader, g.allRows.map g.rowLines with
    | true, header :: rows => header ++ g.rule '|' '+' :: rows.flatten
    | _, rows => rows.flatten
  (g.titleLine border.length :: border :: rows ++ [border]).map String.ofList

end Grid

end Formulary.CommandLine
